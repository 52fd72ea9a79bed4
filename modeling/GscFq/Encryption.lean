import GscFq.ByteOrder
import GscFq.Errors

namespace GscFq

open ByteStream

/-- `ring`'s AES-256-GCM under a key, a nonce and associated data: what `seal_in_place_append_tag` leaves
in its buffer, and what `open_in_place` returns of it. -/
structure Aead where
  sealInPlaceAppendTag : Bytes → Bytes → Bytes → Bytes → Option Bytes
  openInPlace : Bytes → Bytes → Bytes → Bytes → Option Bytes

def tagLength : ℕ := 16

structure Aead.Lawful (R : Aead) : Prop where
  layout : ∀ key nonce aad buffer out, R.sealInPlaceAppendTag key nonce aad buffer = some out →
    ∃ body tag, out = body ++ tag ∧ body.length = buffer.length ∧ tag.length = tagLength
  inverse : ∀ key nonce aad buffer out, R.sealInPlaceAppendTag key nonce aad buffer = some out →
    R.openInPlace key nonce aad out = some buffer

structure EncryptionKey where
  key : Bytes
  nonceSequence : UInt64
  deriving DecidableEq

namespace EncryptionKey

def cryptoError : AppError := .reverseProxy (.cryptoError "ring::error::Unspecified")

def generateNonce (k : EncryptionKey) : Bytes := List.replicate 4 0 ++ (toBe 8 k.nonceSequence.toNat).reverse

/-- The buffer is given room for the tag before `ring` appends one. -/
def encrypt (R : Aead) (k : EncryptionKey) (plaintext associatedData : Bytes) : Except AppError Bytes :=
  let ciphertext := plaintext ++ List.replicate tagLength 0
  match R.sealInPlaceAppendTag k.key k.generateNonce associatedData ciphertext with
  | some sealed => .ok sealed
  | none => .error cryptoError

def decrypt (R : Aead) (k : EncryptionKey) (ciphertext associatedData : Bytes) : Except AppError Bytes :=
  match R.openInPlace k.key k.generateNonce associatedData ciphertext with
  | some plaintext => .ok plaintext
  | none => .error cryptoError

def RoundTrips (R : Aead) (k : EncryptionKey) (plaintext associatedData : Bytes) : Prop :=
  ∃ ciphertext, k.encrypt R plaintext associatedData = .ok ciphertext ∧
    k.decrypt R ciphertext associatedData = .ok plaintext

variable {R : Aead}

theorem decrypt_encrypt (hR : R.Lawful) {k : EncryptionKey} {plaintext associatedData ciphertext : Bytes}
    (h : k.encrypt R plaintext associatedData = .ok ciphertext) :
    k.decrypt R ciphertext associatedData = .ok (plaintext ++ List.replicate tagLength 0) ∧
      ciphertext.length = plaintext.length + 2 * tagLength := by
  simp only [encrypt] at h
  split at h
  · rename_i out hseal
    cases h
    obtain ⟨body, tag, hout, hbody, htag⟩ := hR.layout _ _ _ _ _ hseal
    constructor
    · rw [decrypt, hR.inverse _ _ _ _ _ hseal]
    · rw [hout, List.length_append, hbody, htag, List.length_append, List.length_replicate]
      omega
  · cases h

theorem padded_ne (plaintext : Bytes) : plaintext ++ List.replicate tagLength 0 ≠ plaintext := by
  intro h
  have hlen := congrArg List.length h
  rw [List.length_append, List.length_replicate, tagLength] at hlen
  omega

theorem never_round_trips (hR : R.Lawful) (k : EncryptionKey) (plaintext associatedData : Bytes) :
    ¬ RoundTrips R k plaintext associatedData := by
  rintro ⟨ciphertext, henc, hdec⟩
  rw [(decrypt_encrypt hR henc).1] at hdec
  exact padded_ne plaintext (Except.ok.inj hdec)

def sampleKey : EncryptionKey := ⟨List.replicate 32 0, 0⟩

def samplePlaintext : Bytes := [111, 107]

def sampleCiphertext : Bytes :=
  [161, 204, 64, 61, 77, 96, 107, 110, 7, 78, 197, 211, 186, 243, 157, 24, 114, 96, 90, 212, 251, 249, 71, 128, 173,
    88, 212, 192, 222, 199, 67, 235, 1, 78]

def isSample (key nonce aad : Bytes) : Bool := key == sampleKey.key && nonce == sampleKey.generateNonce && aad == []

def sampleAead : Aead where
  sealInPlaceAppendTag key nonce aad buffer :=
    if isSample key nonce aad && buffer == samplePlaintext ++ List.replicate tagLength 0 then some sampleCiphertext
    else some (buffer ++ List.replicate tagLength 0)
  openInPlace key nonce aad out :=
    if isSample key nonce aad && out == sampleCiphertext then
      some (samplePlaintext ++ List.replicate tagLength 0)
    else if out.drop (out.length - tagLength) = List.replicate tagLength 0 then some (out.take (out.length - tagLength))
    else none

theorem sampleAead_lawful : sampleAead.Lawful := by
  constructor
  · intro key nonce aad buffer out h
    simp only [sampleAead] at h
    split at h
    · rename_i hs
      obtain ⟨-, hb⟩ := Bool.and_eq_true_iff.mp hs
      obtain rfl := Option.some.inj h
      refine ⟨sampleCiphertext.take 18, sampleCiphertext.drop 18, by decide, ?_, by decide⟩
      rw [beq_iff_eq.mp hb]
      decide
    · obtain rfl := Option.some.inj h
      exact ⟨buffer, List.replicate tagLength 0, rfl, rfl, by simp⟩
  · intro key nonce aad buffer out h
    simp only [sampleAead] at h ⊢
    split at h
    · rename_i hs
      obtain ⟨hkey, hb⟩ := Bool.and_eq_true_iff.mp hs
      obtain rfl := Option.some.inj h
      simp [hkey, beq_iff_eq.mp hb]
    · obtain rfl := Option.some.inj h
      have hne : (buffer ++ List.replicate tagLength 0 == sampleCiphertext) = false := by
        rw [beq_eq_false_iff_ne]
        intro he
        have hlast := congrArg List.getLast? he
        rw [List.getLast?_append] at hlast
        cases hlast
      simp [hne]

theorem sample_not_round_trip :
    (∃ ciphertext, sampleKey.encrypt sampleAead samplePlaintext [] = .ok ciphertext) ∧
      ¬ RoundTrips sampleAead sampleKey samplePlaintext [] :=
  ⟨⟨sampleCiphertext, by decide⟩, never_round_trips sampleAead_lawful sampleKey samplePlaintext []⟩

theorem tag_space_returned :
    sampleKey.encrypt sampleAead samplePlaintext [] = .ok sampleCiphertext ∧
      sampleKey.decrypt sampleAead sampleCiphertext [] = .ok [111, 107, 0, 0, 0, 0, 0, 0, 0, 0, 0, 0, 0, 0, 0, 0, 0, 0] ∧
      ¬ RoundTrips sampleAead sampleKey samplePlaintext [] := by
  have henc : sampleKey.encrypt sampleAead samplePlaintext [] = .ok sampleCiphertext := by decide
  have hdec : sampleKey.decrypt sampleAead sampleCiphertext [] =
      .ok [111, 107, 0, 0, 0, 0, 0, 0, 0, 0, 0, 0, 0, 0, 0, 0, 0, 0] := by decide
  refine ⟨henc, hdec, ?_⟩
  rintro ⟨ciphertext, he, hd⟩
  obtain rfl := Except.ok.inj (henc.symm.trans he)
  rw [hdec] at hd
  cases hd

end EncryptionKey

end GscFq
