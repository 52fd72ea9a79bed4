import GscFq.Totp

namespace GscFq.Totp

open ByteStream

variable (P : TotpPrimitives)

def codeAt (totp : Totp) (counter : ℕ) : UInt32 :=
  truncate (P.hmacSha1 totp.secret (toBe 8 counter)) % UInt32.ofNat (10 ^ totp.digits)

theorem generate_eq_codeAt (totp : Totp) (t : UInt64) :
    totp.generate P t = totp.codeAt P (t.toNat / totp.stepSecs.toNat) := by
  rw [generate, codeAt, UInt64.toNat_div]

theorem verify_iff (totp : Totp) (now : UInt64) (code : UInt32) :
    totp.verify P now code = true ↔ ∃ ts ∈ totp.windows now, code = totp.codeAt P (ts.toNat / totp.stepSecs.toNat) := by
  rw [verify, List.any_eq_true]
  simp only [beq_iff_eq, generate_eq_codeAt, eq_comm (b := code)]

theorem verify_counters {totp : Totp} (hs : totp.stepSecs = 30) {now : UInt64} (hnow : now.toNat ≤ 2 ^ 64 - 1 - 30)
    (code : UInt32) : totp.verify P now code = true ↔ code = totp.codeAt P (now.toNat / 30) ∨
      code = totp.codeAt P (now.toNat / 30 + 1) ∨ code = totp.codeAt P (max (now.toNat / 30) 1 - 1) := by
  have hs30 : totp.stepSecs.toNat = 30 := by rw [hs]; rfl
  have hbefore : (saturatingSub now totp.stepSecs).toNat / 30 = max (now.toNat / 30) 1 - 1 := by
    rw [saturatingSub_toNat, hs30]
    omega
  have hafter : (saturatingAdd now totp.stepSecs).toNat / 30 = now.toNat / 30 + 1 := by
    rw [saturatingAdd_toNat, hs30]
    omega
  rw [verify_iff, windows]
  simp only [List.mem_cons, List.not_mem_nil, or_false, exists_eq_or_imp, exists_eq_left, hs30, hbefore, hafter]
  exact or_comm.trans or_assoc

theorem acceptance_window (secret : Bytes) (now : UInt64) :
    (∀ t : UInt64, now.toNat ≤ t.toNat + 30 → t.toNat ≤ now.toNat + 30 →
      (new secret).verify P now ((new secret).generate P t) = true) ∧
    (now.toNat ≤ 2 ^ 64 - 1 - 30 → ∀ code, (new secret).verify P now code = true ↔
      code = (new secret).codeAt P (now.toNat / 30) ∨ code = (new secret).codeAt P (now.toNat / 30 + 1) ∨
        code = (new secret).codeAt P (max (now.toNat / 30) 1 - 1)) := by
  constructor
  · intro t hl hu
    exact verify_generate P (new secret) t now rfl hl hu
  · intro hnow code
    exact verify_counters P rfl hnow code

/-- `generate` with every index of a slice and the power checked. -/
def generateChecked (totp : Totp) (timestamp : UInt64) : Option UInt32 := do
  let counter := timestamp / totp.stepSecs
  let hmacResult := (P.hmacSha1 totp.secret (toBe 8 counter.toNat)).toList
  let last ← hmacResult[hmacResult.length - 1]?
  let offset := (last &&& 0x0f).toNat
  let byte1 ← hmacResult[offset]?
  let byte2 ← hmacResult[offset + 1]?
  let byte3 ← hmacResult[offset + 2]?
  let byte4 ← hmacResult[offset + 3]?
  let b1 := (byte1.toUInt32 &&& 0x7f) <<< 24
  let b2 := (byte2.toUInt32 &&& 0xff) <<< 16
  let b3 := (byte3.toUInt32 &&& 0xff) <<< 8
  let b4 := byte4.toUInt32 &&& 0xff
  let code := b1 ||| b2 ||| b3 ||| b4
  if 10 ^ totp.digits < 2 ^ 32 then some (code % UInt32.ofNat (10 ^ totp.digits)) else none

/-- The 31-bit big-endian number that stands in the code at the offset its last byte names. -/
def dynamicTruncation (mac : Vector UInt8 20) : ℕ :=
  ofBe ((mac.toList.drop (mac[19].toNat % 16)).take 4) % 2 ^ 31

theorem and_seven_bits (b : UInt8) : (b.toUInt32 &&& 0x7f).toNat = b.toNat % 128 := by
  rw [UInt32.toNat_and, UInt8.toNat_toUInt32]
  exact Nat.and_two_pow_sub_one_eq_mod b.toNat 7

theorem and_eight_bits (b : UInt8) : b.toUInt32 &&& 0xff = b.toUInt32 := by
  have hb := b.toNat_lt
  apply UInt32.toNat_inj.mp
  rw [UInt32.toNat_and, UInt8.toNat_toUInt32]
  exact (Nat.and_two_pow_sub_one_eq_mod b.toNat 8).trans (Nat.mod_eq_of_lt hb)

theorem or_bytes {a b c d : ℕ} (hb : b < 256) (hc : c < 256) (hd : d < 256) :
    a <<< 24 ||| b <<< 16 ||| c <<< 8 ||| d = ((a * 256 + b) * 256 + c) * 256 + d := by
  have hab : a <<< 24 ||| b <<< 16 = (a * 256 + b) <<< 16 := by
    rw [← Nat.shiftLeft_add_eq_or_of_lt (by rw [Nat.shiftLeft_eq]; omega)]
    simp only [Nat.shiftLeft_eq]
    omega
  have habc : (a * 256 + b) <<< 16 ||| c <<< 8 = ((a * 256 + b) * 256 + c) <<< 8 := by
    rw [← Nat.shiftLeft_add_eq_or_of_lt (by rw [Nat.shiftLeft_eq]; omega)]
    simp only [Nat.shiftLeft_eq]
    omega
  rw [hab, habc, ← Nat.shiftLeft_add_eq_or_of_lt hd, Nat.shiftLeft_eq]

theorem joined_bytes (b₁ b₂ b₃ b₄ : UInt8) :
    ((b₁.toUInt32 &&& 0x7f) <<< 24 ||| (b₂.toUInt32 &&& 0xff) <<< 16 ||| (b₃.toUInt32 &&& 0xff) <<< 8 |||
      (b₄.toUInt32 &&& 0xff)).toNat = ofBe [b₁, b₂, b₃, b₄] % 2 ^ 31 := by
  have h₁ := b₁.toNat_lt
  have h₂ := b₂.toNat_lt
  have h₃ := b₃.toNat_lt
  have h₄ := b₄.toNat_lt
  have hshift (x : ℕ) (k : ℕ) (hk : k ≤ 24) (hx : x < 256) : x <<< k % 2 ^ 32 = x <<< k := by
    apply Nat.mod_eq_of_lt
    rw [Nat.shiftLeft_eq]
    have hpow : 2 ^ k ≤ 2 ^ 24 := Nat.pow_le_pow_right (by decide) hk
    nlinarith
  have h24 : (24 : UInt32).toNat % 32 = 24 := rfl
  have h16 : (16 : UInt32).toNat % 32 = 16 := rfl
  have h8 : (8 : UInt32).toNat % 32 = 8 := rfl
  simp only [and_eight_bits, UInt32.toNat_or, UInt32.toNat_shiftLeft, and_seven_bits, UInt8.toNat_toUInt32, h24, h16, h8]
  rw [hshift _ 24 (by omega) (by omega), hshift _ 16 (by omega) h₂, hshift _ 8 (by omega) h₃, or_bytes h₂ h₃ h₄]
  simp only [ofBe, List.foldl_cons, List.foldl_nil]
  omega

theorem last_offset (b : UInt8) : (b &&& 0x0f).toNat = b.toNat % 16 := by
  rw [UInt8.toNat_and]
  exact Nat.and_two_pow_sub_one_eq_mod b.toNat 4

theorem getElem?_toList {mac : Vector UInt8 20} {i : ℕ} (h : i < 20) : mac.toList[i]? = some mac[i] := by
  rw [List.getElem?_eq_getElem (by simpa using h), Vector.getElem_toList]

theorem take_four (mac : Vector UInt8 20) {i : ℕ} (h : i < 16) :
    (mac.toList.drop i).take 4 = [mac[i], mac[i + 1], mac[i + 2], mac[i + 3]] := by
  have hlen : mac.toList.length = 20 := by simp
  rw [List.drop_eq_getElem_cons (by omega), List.drop_eq_getElem_cons (by omega), List.drop_eq_getElem_cons (by omega),
    List.drop_eq_getElem_cons (by omega)]
  simp only [List.take_succ_cons, List.take_zero, Vector.getElem_toList]

theorem truncate_eq (mac : Vector UInt8 20) {offset : ℕ} (hoffset : offset < 16)
    (hlast : (mac.get 19 &&& 0x0f).toNat = offset) : truncate mac =
      ((mac[offset].toUInt32 &&& 0x7f) <<< 24 ||| (mac[offset + 1].toUInt32 &&& 0xff) <<< 16 |||
        (mac[offset + 2].toUInt32 &&& 0xff) <<< 8 ||| (mac[offset + 3].toUInt32 &&& 0xff)) := by
  subst hlast
  rfl

theorem truncate_toNat (mac : Vector UInt8 20) : (truncate mac).toNat = dynamicTruncation mac := by
  have hoffset : mac[19].toNat % 16 < 16 := Nat.mod_lt _ (by decide)
  rw [truncate_eq mac hoffset (last_offset _), joined_bytes, dynamicTruncation, take_four mac hoffset]

theorem generateChecked_eq {totp : Totp} (hd : totp.digits ≤ 9) (timestamp : UInt64) :
    totp.generateChecked P timestamp = some (totp.generate P timestamp) := by
  have hpow : 10 ^ totp.digits < 2 ^ 32 := (Nat.pow_le_pow_right (by decide) hd).trans_lt (by decide)
  unfold generateChecked generate
  dsimp only
  generalize P.hmacSha1 totp.secret (toBe 8 (timestamp / totp.stepSecs).toNat) = mac
  have hlen : mac.toList.length - 1 = 19 := by simp
  have hoffset : mac[19].toNat % 16 < 16 := Nat.mod_lt _ (by decide)
  have hbyte (k : ℕ) (hk : k < 4) : mac.toList[mac[19].toNat % 16 + k]? = some mac[mac[19].toNat % 16 + k] :=
    getElem?_toList (by omega)
  rw [truncate_eq mac hoffset (last_offset _)]
  simp only [hlen, getElem?_toList (show 19 < 20 by decide), Option.bind_eq_bind, Option.bind_some, last_offset,
    getElem?_toList (show mac[19].toNat % 16 < 20 by omega), hbyte 1 (by decide), hbyte 2 (by decide), hbyte 3 (by decide)]
  rw [if_pos hpow]

theorem generate_toNat {totp : Totp} (hd : totp.digits ≤ 9) (hs : totp.stepSecs = 30) (timestamp : UInt64) :
    (totp.generate P timestamp).toNat =
      dynamicTruncation (P.hmacSha1 totp.secret (toBe 8 (timestamp.toNat / 30))) % 10 ^ totp.digits := by
  have hpow : 10 ^ totp.digits < 2 ^ 32 := (Nat.pow_le_pow_right (by decide) hd).trans_lt (by decide)
  have hs30 : totp.stepSecs.toNat = 30 := by rw [hs]; rfl
  rw [generate_eq_codeAt, codeAt, UInt32.toNat_mod, truncate_toNat, hs30, UInt32.toNat_ofNat', Nat.mod_eq_of_lt hpow]

theorem generate_rfc4226 (secret : Bytes) (timestamp : UInt64) :
    (∀ d ≤ 9, (withDigits secret d).generateChecked P timestamp = some ((withDigits secret d).generate P timestamp) ∧
      ((withDigits secret d).generate P timestamp).toNat =
        dynamicTruncation (P.hmacSha1 secret (toBe 8 (timestamp.toNat / 30))) % 10 ^ d) ∧
    ∀ d₁ d₂, d₁ ≤ d₂ → d₂ ≤ 9 → ((withDigits secret d₁).generate P timestamp).toNat =
      ((withDigits secret d₂).generate P timestamp).toNat % 10 ^ d₁ := by
  have hcode (d : ℕ) (hd : d ≤ 9) := @generate_toNat P (withDigits secret d) hd rfl timestamp
  constructor
  · intro d hd
    exact ⟨generateChecked_eq P hd timestamp, hcode d hd⟩
  · intro d₁ d₂ hle hd
    rw [hcode d₁ (hle.trans hd), hcode d₂ hd]
    exact (Nat.mod_mod_of_dvd _ (pow_dvd_pow 10 hle)).symm

end GscFq.Totp
