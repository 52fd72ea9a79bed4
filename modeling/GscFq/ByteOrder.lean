import GscFq.ByteStream

namespace GscFq.ByteStream

def toBe : ℕ → ℕ → Bytes
  | 0, _ => []
  | w + 1, n => toBe w (n / 256) ++ [UInt8.ofNat n]

def ofBe (bs : Bytes) : ℕ := bs.foldl (fun n b => n * 256 + b.toNat) 0

theorem toBe_length (w n : ℕ) : (toBe w n).length = w := by
  induction w generalizing n with
  | zero => rfl
  | succ w ih => simp [toBe, ih]

theorem ofBe_append_one (bs : Bytes) (b : UInt8) : ofBe (bs ++ [b]) = ofBe bs * 256 + b.toNat := by
  simp [ofBe, List.foldl_append]

theorem ofBe_toBe (w n : ℕ) (h : n < 256 ^ w) : ofBe (toBe w n) = n := by
  induction w generalizing n with
  | zero =>
    have hn : n = 0 := by simpa using h
    simp [toBe, ofBe, hn]
  | succ w ih =>
    have hd : n / 256 < 256 ^ w := by
      rw [pow_succ] at h
      exact Nat.div_lt_of_lt_mul (by omega)
    rw [toBe, ofBe_append_one, ih _ hd]
    simp only [UInt8.toNat_ofNat']
    omega

def be16 (n : UInt16) : Bytes := [(n >>> 8).toUInt8, n.toUInt8]

def ofBe16 (hi lo : UInt8) : UInt16 := UInt16.ofNat (hi.toNat * 256 + lo.toNat)

theorem highByte_toNat (n : UInt16) : (n >>> 8).toUInt8.toNat = n.toNat / 256 := by
  have hn := n.toNat_lt
  have he : (8 : UInt16).toNat % 16 = 8 := rfl
  simp only [UInt16.toNat_toUInt8, UInt16.toNat_shiftRight, he, Nat.shiftRight_eq_div_pow]
  omega

theorem ofBe16_be16 (n : UInt16) : ofBe16 (n >>> 8).toUInt8 n.toUInt8 = n := by
  apply UInt16.toNat_inj.mp
  have hn := n.toNat_lt
  rw [ofBe16, highByte_toNat, UInt16.toNat_ofNat', UInt16.toNat_toUInt8]
  omega

theorem be16_ofBe16 (hi lo : UInt8) : be16 (ofBe16 hi lo) = [hi, lo] := by
  have hh := hi.toNat_lt
  have hl := lo.toNat_lt
  have hn : (ofBe16 hi lo).toNat = hi.toNat * 256 + lo.toNat := by
    rw [ofBe16, UInt16.toNat_ofNat']
    omega
  have hhigh : (ofBe16 hi lo >>> 8).toUInt8 = hi := by
    apply UInt8.toNat_inj.mp
    rw [highByte_toNat, hn]
    omega
  have hlow : (ofBe16 hi lo).toUInt8 = lo := by
    apply UInt8.toNat_inj.mp
    rw [UInt16.toNat_toUInt8, hn]
    omega
  rw [be16, hhigh, hlow]

end GscFq.ByteStream
