import GscFq.ByteOrder
import GscFq.Text

/-!
Base32 of RFC 4648: a byte string as one number, filled up with zero bits and written with 32 symbols, then padded with
`=` to a multiple of eight characters.
-/

namespace GscFq.Base32

open ByteStream Text

def symbol (n : ℕ) : Char := if n < 26 then Char.ofNat (65 + n) else Char.ofNat (24 + n)

def symbolValue (c : Char) : ℕ := if 65 ≤ c.toNat then c.toNat - 65 else c.toNat - 24

def symbols : ℕ → ℕ → List Char
  | 0, _ => []
  | w + 1, n => symbols w (n / 32) ++ [symbol (n % 32)]

def symbolCount (bytes : ℕ) : ℕ := (8 * bytes + 4) / 5

def padding (length : ℕ) : ℕ := (8 - length % 8) % 8

def body (s : Bytes) : List Char :=
  symbols (symbolCount s.length) (ofBe s * 2 ^ (5 * symbolCount s.length - 8 * s.length))

def encode (s : Bytes) : List Char := body s ++ List.replicate (padding (body s).length) '='

example : encode [72, 101, 108, 108, 111, 33] = "JBSWY3DPEE======".toList := by decide

/-- Only what `encode` writes is decoded. -/
def decode (text : List Char) : Option Bytes :=
  let digits := text.takeWhile (· ≠ '=')
  let bytes := 5 * digits.length / 8
  let s := toBe bytes (digitsValue 32 symbolValue digits / 2 ^ (5 * digits.length - 8 * bytes))
  if encode s = text then some s else none

theorem symbolValue_symbol {n : ℕ} (hn : n < 32) : symbolValue (symbol n) = n := by
  have h : ∀ i : Fin 32, symbolValue (symbol i) = i := by decide
  exact h ⟨n, hn⟩

theorem symbol_range {n : ℕ} (hn : n < 32) : (symbol n).toUpper = symbol n ∧ symbol n ≠ '=' ∧ symbol n ≠ ' ' ∧
    (symbol n).toNat < 128 := by
  have h : ∀ i : Fin 32, (symbol i).toUpper = symbol i ∧ symbol i ≠ '=' ∧ symbol i ≠ ' ' ∧ (symbol i).toNat < 128 := by
    decide
  exact h ⟨n, hn⟩

theorem mem_symbols {w n : ℕ} {c : Char} (h : c ∈ symbols w n) : ∃ i < 32, c = symbol i := by
  induction w generalizing n with
  | zero => cases h
  | succ w ih =>
    rcases List.mem_append.mp h with h | h
    · exact ih h
    · exact ⟨n % 32, Nat.mod_lt _ (by decide), List.mem_singleton.mp h⟩

theorem symbols_length (w n : ℕ) : (symbols w n).length = w := by
  induction w generalizing n with
  | zero => rfl
  | succ w ih => rw [symbols, List.length_append, ih, List.length_singleton]

theorem symbols_value {w n : ℕ} (h : n < 32 ^ w) : digitsValue 32 symbolValue (symbols w n) = n := by
  induction w generalizing n with
  | zero =>
    rw [pow_zero, Nat.lt_one_iff] at h
    subst h
    rfl
  | succ w ih =>
    have hdiv : n / 32 < 32 ^ w := by
      rw [pow_succ] at h
      exact Nat.div_lt_of_lt_mul (by omega)
    rw [symbols, digitsValue_snoc, ih hdiv, symbolValue_symbol (Nat.mod_lt n (by decide))]
    omega

theorem ofBe_lt (s : Bytes) : ofBe s < 256 ^ s.length := by
  induction s using List.reverseRecOn with
  | nil => exact Nat.one_pos
  | append_singleton s b ih =>
    have hb := b.toNat_lt
    rw [ofBe_append_one, List.length_append, List.length_singleton, pow_succ]
    omega

theorem toBe_ofBe (s : Bytes) : toBe s.length (ofBe s) = s := by
  induction s using List.reverseRecOn with
  | nil => rfl
  | append_singleton s b ih =>
    have hb := b.toNat_lt
    have hdiv : (ofBe s * 256 + b.toNat) / 256 = ofBe s := by omega
    have hlast : UInt8.ofNat (ofBe s * 256 + b.toNat) = b := by
      apply UInt8.toNat_inj.mp
      rw [UInt8.toNat_ofNat']
      omega
    rw [ofBe_append_one, List.length_append, List.length_singleton, toBe, hdiv, ih, hlast]

theorem body_length (s : Bytes) : (body s).length = symbolCount s.length := symbols_length _ _

theorem body_value (s : Bytes) : digitsValue 32 symbolValue (body s) =
    ofBe s * 2 ^ (5 * symbolCount s.length - 8 * s.length) := by
  have hcount : 8 * s.length ≤ 5 * symbolCount s.length := by
    unfold symbolCount
    omega
  apply symbols_value
  calc ofBe s * 2 ^ (5 * symbolCount s.length - 8 * s.length)
      < 256 ^ s.length * 2 ^ (5 * symbolCount s.length - 8 * s.length) :=
        Nat.mul_lt_mul_of_pos_right (ofBe_lt s) (by positivity)
    _ = 2 ^ (8 * s.length + (5 * symbolCount s.length - 8 * s.length)) := by
        rw [pow_add, pow_mul]
        rfl
    _ = 32 ^ symbolCount s.length := by
        rw [Nat.add_sub_cancel' hcount, pow_mul]
        rfl

theorem pad_not_mem_body (s : Bytes) : '=' ∉ body s := by
  intro hmem
  obtain ⟨i, hi, heq⟩ := mem_symbols hmem
  exact (symbol_range hi).2.1 heq.symm

theorem takeWhile_encode (s : Bytes) : (encode s).takeWhile (· ≠ '=') = body s := by
  have hne : ∀ c ∈ body s, decide (c ≠ '=') = true := fun c hc =>
    decide_eq_true (fun heq => pad_not_mem_body s (heq ▸ hc))
  rw [encode, List.takeWhile_append_of_pos hne]
  cases padding (body s).length with
  | zero => simp
  | succ k => simp [List.replicate_succ]

theorem decode_encode (s : Bytes) : decode (encode s) = some s := by
  have hbytes : 5 * symbolCount s.length / 8 = s.length := by
    unfold symbolCount
    omega
  have hs : toBe s.length (ofBe s * 2 ^ (5 * symbolCount s.length - 8 * s.length) /
      2 ^ (5 * symbolCount s.length - 8 * s.length)) = s := by
    rw [Nat.mul_div_cancel _ (by positivity), toBe_ofBe]
  unfold decode
  simp only [takeWhile_encode, body_length, body_value, hbytes, hs, if_true]

end GscFq.Base32
