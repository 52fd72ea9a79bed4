import GscFq.ByteOrder

namespace GscFq

open ByteStream

structure TotpPrimitives where
  toUppercase : String → String
  base32Decode : Bytes → Except String Bytes
  hmacSha1 : Bytes → Bytes → Vector UInt8 20

def utf8 (s : String) : Bytes := s.toUTF8.data.toList

theorem utf8_ofList (cs : List Char) : utf8 (String.ofList cs) = cs.flatMap String.utf8EncodeChar := by
  change (String.ofList cs).toByteArray.data.toList = _
  rw [String.toByteArray_ofList, List.utf8Encode, List.toList_data_toByteArray]

theorem utf8_ascii {cs : List Char} (h : ∀ c ∈ cs, c.toNat < 128) :
    utf8 (String.ofList cs) = cs.map (fun c => UInt8.ofNat c.toNat) := by
  rw [utf8_ofList, List.map_eq_flatMap]
  apply List.flatMap_congr
  intro c hc
  have hsize : c.utf8Size = 1 := Char.utf8Size_eq_one_iff.mpr (UInt32.le_iff_toNat_le.mpr (Nat.lt_succ_iff.mp (h c hc)))
  rw [String.utf8EncodeChar_eq_singleton hsize]
  rfl

structure Totp where
  secret : Bytes
  digits : ℕ
  stepSecs : UInt64
  deriving DecidableEq, Repr

namespace Totp

def new (secret : Bytes) : Totp := ⟨secret, 6, 30⟩

def withDigits (secret : Bytes) (digits : ℕ) : Totp := ⟨secret, digits, 30⟩

def removeSpaces (s : String) : String := String.ofList (s.toList.filter (· != ' '))

def padSecret (bs : Bytes) : Bytes := bs ++ List.replicate ((8 - bs.length % 8) % 8) 61

def fromBase32 (P : TotpPrimitives) (secretB32 : String) : Except String Totp :=
  match P.base32Decode (padSecret (utf8 (P.toUppercase (removeSpaces secretB32)))) with
  | .ok bytes => .ok (new bytes)
  | .error e => .error ("Invalid Base32 secret: " ++ e)

/-- `Totp::from_base32(secret).unwrap_or_else(|_| Totp::new(secret.as_bytes().to_vec()))`, the
reading of a configured secret on both ends of a handshake. -/
def ofSecret (P : TotpPrimitives) (secret : String) : Totp :=
  match fromBase32 P secret with
  | .ok totp => totp
  | .error _ => new (utf8 secret)

theorem offset_lt (b : UInt8) : (b &&& 0x0f).toNat < 16 := by
  rw [UInt8.toNat_and]
  exact Nat.lt_of_le_of_lt Nat.and_le_right (by decide)

def macByte (mac : Vector UInt8 20) (offset : Fin 16) (k : Fin 4) : UInt32 :=
  (mac.get ⟨offset + k, by omega⟩).toUInt32

def truncate (mac : Vector UInt8 20) : UInt32 :=
  let offset : Fin 16 := ⟨(mac.get 19 &&& 0x0f).toNat, offset_lt _⟩
  let b1 := (macByte mac offset 0 &&& 0x7f) <<< 24
  let b2 := (macByte mac offset 1 &&& 0xff) <<< 16
  let b3 := (macByte mac offset 2 &&& 0xff) <<< 8
  let b4 := macByte mac offset 3 &&& 0xff
  b1 ||| b2 ||| b3 ||| b4

def generate (P : TotpPrimitives) (totp : Totp) (timestamp : UInt64) : UInt32 :=
  let counter := timestamp / totp.stepSecs
  truncate (P.hmacSha1 totp.secret (toBe 8 counter.toNat)) % UInt32.ofNat (10 ^ totp.digits)

def saturatingSub (a b : UInt64) : UInt64 := UInt64.ofNat (a.toNat - b.toNat)

def saturatingAdd (a b : UInt64) : UInt64 := UInt64.ofNat (min (a.toNat + b.toNat) (2 ^ 64 - 1))

def windows (totp : Totp) (now : UInt64) : List UInt64 :=
  [saturatingSub now totp.stepSecs, now, saturatingAdd now totp.stepSecs]

def verify (P : TotpPrimitives) (totp : Totp) (now : UInt64) (code : UInt32) : Bool :=
  (totp.windows now).any (fun ts => totp.generate P ts == code)

theorem ofSecret_step (P : TotpPrimitives) (secret : String) : (ofSecret P secret).stepSecs = 30 := by
  unfold ofSecret fromBase32
  cases P.base32Decode (padSecret (utf8 (P.toUppercase (removeSpaces secret)))) <;> rfl

theorem saturatingSub_toNat (a b : UInt64) : (saturatingSub a b).toNat = a.toNat - b.toNat := by
  have ha := a.toNat_lt
  rw [saturatingSub, UInt64.toNat_ofNat']
  omega

theorem saturatingAdd_toNat (a b : UInt64) :
    (saturatingAdd a b).toNat = min (a.toNat + b.toNat) (2 ^ 64 - 1) := by
  rw [saturatingAdd, UInt64.toNat_ofNat']
  omega

theorem generate_congr (P : TotpPrimitives) (totp : Totp) (t u : UInt64)
    (h : t.toNat / totp.stepSecs.toNat = u.toNat / totp.stepSecs.toNat) :
    totp.generate P t = totp.generate P u := by
  have hc : t / totp.stepSecs = u / totp.stepSecs := by
    apply UInt64.toNat_inj.mp
    rw [UInt64.toNat_div, UInt64.toNat_div, h]
  unfold generate
  rw [hc]

/-- A clock within one step of another reads a counter of one of its three windows; at either end of
the `u64` range the saturated window still is that counter's. -/
theorem verify_generate (P : TotpPrimitives) (totp : Totp) (t now : UInt64) (hs : totp.stepSecs = 30)
    (hl : now.toNat ≤ t.toNat + 30) (hu : t.toNat ≤ now.toNat + 30) :
    totp.verify P now (totp.generate P t) = true := by
  have ht := t.toNat_lt
  have hs30 : totp.stepSecs.toNat = 30 := by rw [hs]; rfl
  have hwin : ∃ w ∈ totp.windows now, t.toNat / 30 = w.toNat / 30 := by
    rcases Nat.lt_trichotomy (t.toNat / 30) (now.toNat / 30) with h | h | h
    · refine ⟨saturatingSub now totp.stepSecs, by simp [windows], ?_⟩
      rw [saturatingSub_toNat, hs30]
      omega
    · exact ⟨now, by simp [windows], h⟩
    · refine ⟨saturatingAdd now totp.stepSecs, by simp [windows], ?_⟩
      rw [saturatingAdd_toNat, hs30]
      omega
  obtain ⟨w, hw, hc⟩ := hwin
  refine List.any_eq_true.mpr ⟨w, hw, ?_⟩
  rw [beq_iff_eq]
  exact generate_congr P totp w t (by rw [hs30, hc])

end Totp

end GscFq
