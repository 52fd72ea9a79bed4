import GscFq.Codec

namespace GscFq.ByteStream

namespace Codec

variable {α β : Type}

def decodeN (c : Codec α) : ℕ → Bytes → Option (List α × Bytes)
  | 0, bs => some ([], bs)
  | n + 1, bs => (c.decode bs).bind (fun a => (decodeN c n a.2).map (fun l => (a.1 :: l.1, l.2)))

theorem decodeN_encode (c : Codec α) (l : List α) (rest : Bytes) (h : (l.flatMap c.encode).length < 2 ^ 64) :
    c.decodeN l.length (l.flatMap c.encode ++ rest) = some (l, rest) := by
  induction l with
  | nil => rfl
  | cons a l ih =>
    rw [List.flatMap_cons, List.length_append] at h
    rw [List.flatMap_cons, List.append_assoc, List.length_cons, decodeN, c.decode_encode _ _ (by omega),
      Option.bind_some, ih (by omega)]
    rfl

theorem decodeN_length (c : Codec α) {n : ℕ} {bs rest : Bytes} {l : List α}
    (h : c.decodeN n bs = some (l, rest)) : (l.flatMap c.encode).length + rest.length = bs.length := by
  induction n generalizing bs l with
  | zero =>
    obtain ⟨rfl, rfl⟩ := Prod.mk.inj (Option.some.inj h)
    exact Nat.zero_add _
  | succ n ih =>
    obtain ⟨⟨a, mid⟩, ha, h⟩ := Option.bind_eq_some_iff.mp h
    obtain ⟨⟨l', rest'⟩, hl, he⟩ := Option.map_eq_some_iff.mp h
    obtain ⟨rfl, rfl⟩ := Prod.mk.inj he
    have h₁ := c.decode_length _ _ _ ha
    have h₂ := ih hl
    simp only [List.flatMap_cons, List.length_append] at h₁ h₂ ⊢
    omega

theorem length_le_flatMap (c : Codec α) (hc : ∀ a, c.encode a ≠ []) (l : List α) :
    l.length ≤ (l.flatMap c.encode).length := by
  induction l with
  | nil => simp
  | cons a l ih =>
    have ha := List.length_pos_iff.mpr (hc a)
    rw [List.flatMap_cons, List.length_append, List.length_cons]
    omega

def lengthPrefix (n : ℕ) : Bytes := (toBe 8 n).reverse

def readLength (bs : Bytes) : Option (ℕ × Bytes) :=
  if bs.length < 8 then none else some (ofBe (bs.take 8).reverse, bs.drop 8)

theorem lengthPrefix_length (n : ℕ) : (lengthPrefix n).length = 8 := by
  rw [lengthPrefix, List.length_reverse, toBe_length]

theorem readLength_lengthPrefix (n : ℕ) (rest : Bytes) (h : n < 2 ^ 64) :
    readLength (lengthPrefix n ++ rest) = some (n, rest) := by
  have hl := lengthPrefix_length n
  rw [readLength, if_neg (by rw [List.length_append, hl]; omega), List.take_left' hl, List.drop_left' hl,
    lengthPrefix, List.reverse_reverse, ofBe_toBe 8 n (by norm_num; omega)]

theorem readLength_length {n : ℕ} {bs rest : Bytes} (h : readLength bs = some (n, rest)) :
    8 + rest.length = bs.length := by
  unfold readLength at h
  split at h
  · cases h
  · obtain ⟨-, rfl⟩ := Prod.mk.inj (Option.some.inj h)
    rw [List.length_drop]
    omega

def list (c : Codec α) (hc : ∀ a, c.encode a ≠ []) : Codec (List α) where
  encode l := lengthPrefix l.length ++ l.flatMap c.encode
  decode bs := (readLength bs).bind (fun n => c.decodeN n.1 n.2)
  decode_encode l rest h := by
    rw [List.length_append] at h
    have hn := c.length_le_flatMap hc l
    rw [List.append_assoc, readLength_lengthPrefix _ _ (by omega), Option.bind_some]
    exact c.decodeN_encode l rest (by omega)
  decode_length bs l rest h := by
    obtain ⟨⟨n, mid⟩, hn, h⟩ := Option.bind_eq_some_iff.mp h
    have h₁ := readLength_length hn
    have h₂ := c.decodeN_length h
    simp only [List.length_append, lengthPrefix_length] at h₂ ⊢
    omega

theorem fromUTF8?_toByteArray (s : String) : String.fromUTF8? s.toByteArray = some s := by
  rw [String.fromUTF8?, dif_pos s.isValidUTF8]
  rfl

theorem toUTF8_fromUTF8? {bs : ByteArray} {s : String} (h : String.fromUTF8? bs = some s) : s.toUTF8 = bs := by
  unfold String.fromUTF8? at h
  split at h
  · obtain rfl := Option.some.inj h
    rfl
  · cases h

def text : Codec String where
  encode s := lengthPrefix s.toUTF8.data.toList.length ++ s.toUTF8.data.toList
  decode bs := (readLength bs).bind (fun n =>
    if n.2.length < n.1 then none
    else (String.fromUTF8? ⟨(n.2.take n.1).toArray⟩).map (fun s => (s, n.2.drop n.1)))
  decode_encode s rest h := by
    rw [List.length_append] at h
    rw [List.append_assoc, readLength_lengthPrefix _ _ (by omega), Option.bind_some]
    have hb : (⟨s.toUTF8.data.toList.toArray⟩ : ByteArray) = s.toByteArray := rfl
    rw [if_neg (by rw [List.length_append]; omega), List.take_left' rfl, List.drop_left' rfl, hb]
    rw [fromUTF8?_toByteArray, Option.map_some]
  decode_length bs s rest h := by
    obtain ⟨⟨n, mid⟩, hn, h⟩ := Option.bind_eq_some_iff.mp h
    have h₁ := readLength_length hn
    split at h
    · cases h
    · rename_i hlt
      obtain ⟨s', hs, he⟩ := Option.map_eq_some_iff.mp h
      obtain ⟨rfl, rfl⟩ := Prod.mk.inj he
      simp only [toUTF8_fromUTF8? hs, List.length_append, lengthPrefix_length, List.length_drop,
        List.length_take] at hlt ⊢
      omega

theorem uint_length (w : ℕ) (f : α → ℕ) (g : ℕ → Option α) (hf : ∀ a, f a < 256 ^ w)
    (hg : ∀ a, g (f a) = some a) (a : α) : ((uint w f g hf hg).encode a).length = w := by
  simp only [uint, List.length_reverse, toBe_length]

theorem pair_length (c : Codec α) (d : Codec β) (p : α × β) :
    ((c.pair d).encode p).length = (c.encode p.1).length + (d.encode p.2).length := List.length_append

theorem text_length (s : String) : (text.encode s).length = 8 + s.toUTF8.data.toList.length := by
  simp only [text, List.length_append, lengthPrefix_length]

theorem list_length (c : Codec α) (hc : ∀ a, c.encode a ≠ []) (l : List α) :
    ((c.list hc).encode l).length = 8 + (l.map (fun a => (c.encode a).length)).sum := by
  simp only [list, List.length_append, lengthPrefix_length, List.length_flatMap]

end Codec

end GscFq.ByteStream
