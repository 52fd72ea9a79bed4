import GscFq.Base32
import GscFq.LibraryFormats
import Mathlib.Logic.Relation

namespace GscFq.Totp

open ByteStream

/-- The libraries behind `from_base32`: decoding takes a canonical text back, and ASCII letters have their usual
upper case. -/
structure Base32Lawful (P : TotpPrimitives) : Prop where
  decode_encode : ∀ s, P.base32Decode (utf8 (String.ofList (Base32.encode s))) = .ok s
  toUppercase_ascii : ∀ cs : List Char, (∀ c ∈ cs, c.toNat < 128) →
    P.toUppercase (String.ofList cs) = String.ofList (cs.map Char.toUpper)

/-- One edit of a typed secret: a letter in the other case, a space more, or an equals sign less. -/
inductive Edit : List Char → List Char → Prop
  | changeCase (before after : List Char) {c d : Char} (h : c.toUpper = d.toUpper) :
      Edit (before ++ c :: after) (before ++ d :: after)
  | insertSpace (before after : List Char) : Edit (before ++ after) (before ++ ' ' :: after)
  | removePad (before after : List Char) : Edit (before ++ '=' :: after) (before ++ after)

def TypedFrom (s : Bytes) (text : String) : Prop := Relation.ReflTransGen Edit (Base32.encode s) text.toList

/-- The random bytes are an argument. -/
def generateRandom (secret : Vector UInt8 10) : Totp × String :=
  (new secret.toList, String.ofList (Base32.encode secret.toList))

def normalized (cs : List Char) : List Char := (cs.filter (· != ' ')).map Char.toUpper

/-- Up to blanks and case the text is the encoding with at most some of its padding missing. -/
def Readable (s : Bytes) (cs : List Char) : Prop :=
  (∀ c ∈ cs, c.toNat < 128) ∧
    ∃ k ≤ Base32.padding (Base32.body s).length, normalized cs = Base32.body s ++ List.replicate k '='

theorem toUpper_cases (c : Char) :
    c.toUpper = c ∨ 97 ≤ c.toNat ∧ c.toNat ≤ 122 ∧ c.toUpper.toNat = c.toNat - 32 := by
  unfold Char.toUpper
  split
  · rename_i h
    right
    have hlow : 97 ≤ c.toNat := UInt32.le_iff_toNat_le.mp h.1
    have hhigh : c.toNat ≤ 122 := UInt32.le_iff_toNat_le.mp h.2
    refine ⟨hlow, hhigh, ?_⟩
    have hshift : ('A'.val - 'a'.val).toNat = 2 ^ 32 - 32 := by decide
    have hval : c.val.toNat = c.toNat := rfl
    change (c.val + ('A'.val - 'a'.val)).toNat = c.val.toNat - 32
    rw [UInt32.toNat_add]
    omega
  · exact .inl rfl

theorem ascii_of_toUpper_eq {c d : Char} (h : c.toUpper = d.toUpper) (hc : c.toNat < 128) : d.toNat < 128 := by
  have hn := congrArg Char.toNat h
  rcases toUpper_cases c with hc' | hc' <;> rcases toUpper_cases d with hd' | hd'
  · rw [hc', hd'] at hn
    omega
  · omega
  · rw [hd'] at hn
    omega
  · omega

theorem toUpper_eq_space_iff {c : Char} : c.toUpper = ' ' ↔ c = ' ' := by
  constructor
  · intro h
    rcases toUpper_cases c with hc | hc
    · exact hc.symm.trans h
    · have hn : c.toUpper.toNat = 32 := congrArg Char.toNat h
      omega
  · rintro rfl
    decide

theorem normalized_append (cs ds : List Char) : normalized (cs ++ ds) = normalized cs ++ normalized ds := by
  simp [normalized]

theorem normalized_cons (c : Char) (cs : List Char) :
    normalized (c :: cs) = if c = ' ' then normalized cs else c.toUpper :: normalized cs := by
  by_cases h : c = ' ' <;> simp [normalized, h]

theorem normalized_congr {c d : Char} (h : c.toUpper = d.toUpper) (cs : List Char) :
    normalized (c :: cs) = normalized (d :: cs) := by
  have hspace : c = ' ' ↔ d = ' ' := by rw [← toUpper_eq_space_iff, h, toUpper_eq_space_iff]
  simp only [normalized_cons, hspace, h]

theorem remove_pad {front back body : List Char} {k : ℕ} (hbody : '=' ∉ body)
    (h : front ++ '=' :: back = body ++ List.replicate k '=') :
    ∃ j ≤ k, front ++ back = body ++ List.replicate j '=' := by
  rcases List.append_eq_append_iff.mp h with ⟨mid, rfl, hmid⟩ | ⟨mid, rfl, hmid⟩
  · cases mid with
    | nil =>
      cases k with
      | zero => cases hmid
      | succ k =>
        rw [List.replicate_succ] at hmid
        exact ⟨k, Nat.le_succ k, by rw [(List.cons.inj hmid).2, List.append_nil]⟩
    | cons c mid =>
      obtain ⟨rfl, -⟩ := List.cons.inj hmid
      exact absurd (List.mem_append_right _ List.mem_cons_self) hbody
  · have hall := List.eq_replicate_iff.mp hmid.symm
    simp only [List.length_append, List.length_cons] at hall
    refine ⟨mid.length + back.length, by omega, ?_⟩
    rw [List.append_assoc, List.append_cancel_left_eq, List.eq_replicate_iff]
    refine ⟨List.length_append, ?_⟩
    intro c hc
    apply hall.2 c
    rcases List.mem_append.mp hc with hc | hc
    · exact List.mem_append_left _ hc
    · exact List.mem_append_right _ (List.mem_cons_of_mem _ hc)

variable {P : TotpPrimitives} {s : Bytes}

theorem Edit.readable {cs ds : List Char} (h : Edit cs ds) (hr : Readable s cs) : Readable s ds := by
  obtain ⟨hascii, k, hk, hnorm⟩ := hr
  cases h with
  | changeCase before after h =>
    simp only [List.forall_mem_append, List.forall_mem_cons] at hascii
    refine ⟨?_, k, hk, ?_⟩
    · simp only [List.forall_mem_append, List.forall_mem_cons]
      exact ⟨hascii.1, ascii_of_toUpper_eq h hascii.2.1, hascii.2.2⟩
    · rw [normalized_append, ← normalized_congr h, ← normalized_append, hnorm]
  | insertSpace before after =>
    simp only [List.forall_mem_append] at hascii
    refine ⟨?_, k, hk, ?_⟩
    · simp only [List.forall_mem_append, List.forall_mem_cons]
      exact ⟨hascii.1, by decide, hascii.2⟩
    · rw [normalized_append, normalized_cons, if_pos rfl, ← normalized_append, hnorm]
  | removePad before after =>
    simp only [List.forall_mem_append, List.forall_mem_cons] at hascii
    rw [normalized_append, normalized_cons, if_neg (by decide)] at hnorm
    obtain ⟨j, hj, heq⟩ := remove_pad (Base32.pad_not_mem_body s) hnorm
    refine ⟨?_, j, hj.trans hk, ?_⟩
    · simp only [List.forall_mem_append]
      exact ⟨hascii.1, hascii.2.2⟩
    · rw [normalized_append, heq]

theorem canonical_char {j : ℕ} {c : Char} (hc : c ∈ Base32.body s ++ List.replicate j '=') :
    c.toUpper = c ∧ c ≠ ' ' ∧ c.toNat < 128 := by
  rcases List.mem_append.mp hc with hc | hc
  · obtain ⟨i, hi, rfl⟩ := Base32.mem_symbols hc
    have hrange := Base32.symbol_range hi
    exact ⟨hrange.1, hrange.2.2.1, hrange.2.2.2⟩
  · rw [List.eq_of_mem_replicate hc]
    decide

theorem readable_encode (s : Bytes) : Readable s (Base32.encode s) := by
  refine ⟨fun c hc => (canonical_char hc).2.2, _, Nat.le_refl _, ?_⟩
  have hfilter : (Base32.encode s).filter (· != ' ') = Base32.encode s :=
    List.filter_eq_self.mpr (fun c hc => by simpa using (canonical_char hc).2.1)
  rw [normalized, hfilter]
  exact (List.map_congr_left (fun c hc => (canonical_char hc).1)).trans (List.map_id _)

theorem readable_of_edits {cs ds : List Char} (h : Relation.ReflTransGen Edit cs ds) (hc : Readable s cs) :
    Readable s ds := by
  induction h with
  | refl => exact hc
  | tail _ hedit ih => exact hedit.readable ih

theorem padSecret_body {k : ℕ} (hk : k ≤ Base32.padding (Base32.body s).length) :
    padSecret (utf8 (String.ofList (Base32.body s ++ List.replicate k '='))) =
      utf8 (String.ofList (Base32.encode s)) := by
  have hbyte : UInt8.ofNat '='.toNat = 61 := by decide
  have hlen : k + (8 - ((Base32.body s).length + k) % 8) % 8 = Base32.padding (Base32.body s).length := by
    unfold Base32.padding at hk ⊢
    omega
  rw [Base32.encode, utf8_ascii (fun c hc => (canonical_char hc).2.2), utf8_ascii (fun c hc => (canonical_char hc).2.2),
    padSecret, List.length_map, List.length_append, List.length_replicate, List.map_append, List.map_append,
    List.map_replicate, List.map_replicate, hbyte, List.append_assoc, List.replicate_append_replicate, hlen]

theorem fromBase32_of_readable (hP : Base32Lawful P) {text : String} (h : Readable s text.toList) :
    fromBase32 P text = .ok (new s) := by
  obtain ⟨hascii, k, hk, hnorm⟩ := h
  have hclean : P.toUppercase (removeSpaces text) = String.ofList (Base32.body s ++ List.replicate k '=') := by
    rw [removeSpaces, hP.toUppercase_ascii _ (fun c hc => hascii c (List.mem_filter.mp hc).1), ← hnorm]
    rfl
  rw [fromBase32, hclean, padSecret_body hk, hP.decode_encode]

theorem fromBase32_generateRandom (hP : Base32Lawful P) (secret : Vector UInt8 10) :
    fromBase32 P (generateRandom secret).2 = .ok (generateRandom secret).1 := by
  apply fromBase32_of_readable hP
  rw [generateRandom, String.toList_ofList]
  exact readable_encode secret.toList

theorem fromBase32_typed (hP : Base32Lawful P) {text : String} (h : TypedFrom s text) :
    fromBase32 P text = .ok (new s) := fromBase32_of_readable hP (readable_of_edits h (readable_encode s))

def base32Primitives : TotpPrimitives :=
  { Bincode.sampleTotp with
    base32Decode := fun bytes =>
      match Base32.decode (bytes.map (fun b => Char.ofNat b.toNat)) with
      | some s => .ok s
      | none => .error "invalid input" }

theorem base32Primitives_lawful : Base32Lawful base32Primitives where
  decode_encode s := by
    have hchars : (utf8 (String.ofList (Base32.encode s))).map (fun b => Char.ofNat b.toNat) = Base32.encode s := by
      have hascii : ∀ c ∈ Base32.encode s, c.toNat < 128 := fun c hc => (canonical_char hc).2.2
      rw [utf8_ascii hascii, List.map_map]
      refine (List.map_congr_left fun c hc => ?_).trans (List.map_id _)
      have hmod : c.toNat % 2 ^ 8 = c.toNat := Nat.mod_eq_of_lt ((hascii c hc).trans (by decide))
      rw [Function.comp_apply, UInt8.toNat_ofNat', hmod, Char.ofNat_toNat]
      rfl
    simp only [base32Primitives, hchars, Base32.decode_encode]
  toUppercase_ascii cs _ := by simp [base32Primitives, Bincode.sampleTotp]

theorem lower_case_spaced_typed : fromBase32 base32Primitives "mY =====" = .ok (new [102]) := by
  have hencode : Base32.encode [102] = "MY======".toList := by decide
  apply fromBase32_typed base32Primitives_lawful
  unfold TypedFrom
  rw [hencode]
  apply Relation.ReflTransGen.head (Edit.changeCase [] "Y======".toList (by decide : 'M'.toUpper = 'm'.toUpper))
  apply Relation.ReflTransGen.head (Edit.insertSpace "mY".toList "======".toList)
  exact .single (Edit.removePad "mY ".toList "=====".toList)

end GscFq.Totp
