import GscFq.ByteOrder

namespace GscFq.ByteStream

/-- A self-delimiting byte format, for values whose encoding a 64-bit length can count. A value takes
as many bytes to decode as to encode. -/
structure Codec (α : Type) where
  encode : α → Bytes
  decode : Bytes → Option (α × Bytes)
  decode_encode : ∀ a rest, (encode a).length < 2 ^ 64 → decode (encode a ++ rest) = some (a, rest)
  decode_length : ∀ bs a rest, decode bs = some (a, rest) → (encode a).length + rest.length = bs.length

namespace Codec

variable {α β : Type}

def uint (w : ℕ) (f : α → ℕ) (g : ℕ → Option α) (hf : ∀ a, f a < 256 ^ w) (hg : ∀ a, g (f a) = some a) :
    Codec α where
  encode a := (toBe w (f a)).reverse
  decode bs := if bs.length < w then none
    else (g (ofBe (bs.take w).reverse)).map (fun a => (a, bs.drop w))
  decode_encode a rest _ := by
    have hl : (toBe w (f a)).reverse.length = w := by rw [List.length_reverse, toBe_length]
    rw [if_neg (by rw [List.length_append, hl]; omega), List.take_left' hl, List.drop_left' hl,
      List.reverse_reverse, ofBe_toBe w _ (hf a), hg]
    rfl
  decode_length bs a rest h := by
    split at h
    · cases h
    · obtain ⟨b, -, hb⟩ := Option.map_eq_some_iff.mp h
      obtain ⟨rfl, rfl⟩ := Prod.mk.inj hb
      rw [List.length_reverse, toBe_length, List.length_drop]
      omega

def unit : Codec Unit where
  encode _ := []
  decode bs := some ((), bs)
  decode_encode _ _ _ := rfl
  decode_length bs a rest h := by
    obtain ⟨-, rfl⟩ := Prod.mk.inj (Option.some.inj h)
    exact Nat.zero_add _

def sigma {τ : Type} {P : τ → Type} (tag : Codec τ) (payload : ∀ t, Codec (P t)) : Codec (Sigma P) where
  encode p := tag.encode p.1 ++ (payload p.1).encode p.2
  decode bs := (tag.decode bs).bind (fun t =>
    ((payload t.1).decode t.2).map (fun p => (⟨t.1, p.1⟩, p.2)))
  decode_encode p rest h := by
    rw [List.length_append] at h
    rw [List.append_assoc, tag.decode_encode _ _ (by omega), Option.bind_some,
      (payload p.1).decode_encode _ _ (by omega)]
    rfl
  decode_length bs p rest h := by
    obtain ⟨⟨t, mid⟩, ht, h⟩ := Option.bind_eq_some_iff.mp h
    obtain ⟨⟨q, rest'⟩, hq, he⟩ := Option.map_eq_some_iff.mp h
    obtain ⟨rfl, rfl⟩ := Prod.mk.inj he
    have h₁ := tag.decode_length _ _ _ ht
    have h₂ := (payload t).decode_length _ _ _ hq
    simp only [List.length_append] at h₁ h₂ ⊢
    omega

def pair (c : Codec α) (d : Codec β) : Codec (α × β) where
  encode p := c.encode p.1 ++ d.encode p.2
  decode bs := (c.decode bs).bind (fun a => (d.decode a.2).map (fun b => ((a.1, b.1), b.2)))
  decode_encode p rest h := by
    rw [List.length_append] at h
    rw [List.append_assoc, c.decode_encode _ _ (by omega), Option.bind_some, d.decode_encode _ _ (by omega)]
    rfl
  decode_length bs p rest h := by
    obtain ⟨⟨a, mid⟩, ha, h⟩ := Option.bind_eq_some_iff.mp h
    obtain ⟨⟨b, rest'⟩, hb, he⟩ := Option.map_eq_some_iff.mp h
    obtain ⟨rfl, rfl⟩ := Prod.mk.inj he
    have h₁ := c.decode_length _ _ _ ha
    have h₂ := d.decode_length _ _ _ hb
    simp only [List.length_append] at h₁ h₂ ⊢
    omega

def map (c : Codec α) (f : β → α) (g : α → β) (h : ∀ b, g (f b) = b) (h' : ∀ a, f (g a) = a) : Codec β where
  encode b := c.encode (f b)
  decode bs := (c.decode bs).map (fun a => (g a.1, a.2))
  decode_encode b rest hl := by
    rw [c.decode_encode _ _ hl, Option.map_some, h]
  decode_length bs b rest hd := by
    obtain ⟨⟨a, rest'⟩, ha, he⟩ := Option.map_eq_some_iff.mp hd
    obtain ⟨rfl, rfl⟩ := Prod.mk.inj he
    rw [h']
    exact c.decode_length _ _ _ ha

def byte : Codec UInt8 := uint 1 UInt8.toNat (fun n => some (UInt8.ofNat n)) (fun a => a.toNat_lt) (by simp)

def u16 : Codec UInt16 := uint 2 UInt16.toNat (fun n => some (UInt16.ofNat n)) (fun a => a.toNat_lt) (by simp)

def u32 : Codec UInt32 := uint 4 UInt32.toNat (fun n => some (UInt32.ofNat n)) (fun a => a.toNat_lt) (by simp)

def option (c : Codec α) : Codec (Option α) where
  encode
    | none => [0]
    | some a => 1 :: c.encode a
  decode
    | 0 :: bs => some (none, bs)
    | 1 :: bs => (c.decode bs).map (fun a => (some a.1, a.2))
    | _ => none
  decode_encode a rest h := by
    cases a with
    | none => rfl
    | some a =>
      have hl : (c.encode a).length < 2 ^ 64 := by
        simp only [List.length_cons] at h
        omega
      simp only [List.cons_append, c.decode_encode a rest hl, Option.map_some]
  decode_length bs o rest h := by
    split at h
    · obtain ⟨rfl, rfl⟩ := Prod.mk.inj (Option.some.inj h)
      simp only [List.length_cons, List.length_nil]
      omega
    · obtain ⟨⟨a, rest'⟩, ha, he⟩ := Option.map_eq_some_iff.mp h
      obtain ⟨rfl, rfl⟩ := Prod.mk.inj he
      have h₁ := c.decode_length _ _ _ ha
      simp only [List.length_cons]
      omega
    · cases h

end Codec

end GscFq.ByteStream
