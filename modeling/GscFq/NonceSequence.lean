import GscFq.Encryption

namespace GscFq.EncryptionKey

open ByteStream

structure SealCall where
  key : Bytes
  nonce : Bytes
  associatedData : Bytes
  buffer : Bytes
  deriving DecidableEq

def sealCall (k : EncryptionKey) (plaintext associatedData : Bytes) : SealCall :=
  ⟨k.key, k.generateNonce, associatedData, plaintext ++ List.replicate tagLength 0⟩

theorem encrypt_sealCall (R : Aead) (k : EncryptionKey) (plaintext associatedData : Bytes) :
    k.encrypt R plaintext associatedData =
      ((R.sealInPlaceAppendTag (k.sealCall plaintext associatedData).key (k.sealCall plaintext associatedData).nonce
        (k.sealCall plaintext associatedData).associatedData (k.sealCall plaintext associatedData).buffer).elim
          (.error cryptoError) .ok) := by
  unfold encrypt sealCall
  dsimp only
  split
  · rename_i out hseal
    rw [hseal]
    rfl
  · rename_i hseal
    rw [hseal]
    rfl

inductive Call where
  | encrypt (plaintext associatedData : Bytes)
  | decrypt (ciphertext associatedData : Bytes)
  deriving DecidableEq

def Call.isEncrypt : Call → Bool
  | .encrypt _ _ => true
  | .decrypt _ _ => false

structure Use where
  key : EncryptionKey
  seals : List SealCall

/-- Both methods take `&self`: the key stays as it is, its nonce sequence included. -/
def Use.call (u : Use) : Call → Use
  | .encrypt plaintext associatedData => { u with seals := u.seals ++ [u.key.sealCall plaintext associatedData] }
  | .decrypt _ _ => u

def Use.calls (u : Use) (cs : List Call) : Use := cs.foldl Use.call u

def nonces (k : EncryptionKey) (cs : List Call) : List Bytes := ((Use.calls ⟨k, []⟩ cs).seals).map (·.nonce)

theorem Use.call_key (u : Use) (c : Call) : (u.call c).key = u.key := by
  cases c <;> rfl

theorem Use.call_nonces (u : Use) (c : Call) :
    (u.call c).seals.map (·.nonce) =
      u.seals.map (·.nonce) ++ List.replicate (if c.isEncrypt then 1 else 0) u.key.generateNonce := by
  cases c with
  | encrypt plaintext associatedData => exact List.map_append
  | decrypt ciphertext associatedData => exact (List.append_nil _).symm

theorem Use.calls_nonces (u : Use) (cs : List Call) :
    (u.calls cs).seals.map (·.nonce) =
      u.seals.map (·.nonce) ++ List.replicate (cs.countP Call.isEncrypt) u.key.generateNonce := by
  induction cs generalizing u with
  | nil => exact (List.append_nil _).symm
  | cons c cs ih =>
    have hrest := ih (u.call c)
    rw [call_key, call_nonces, List.append_assoc, List.replicate_append_replicate] at hrest
    rw [List.countP_cons, Nat.add_comm]
    exact hrest

theorem nonces_unique_iff (k : EncryptionKey) (cs : List Call) :
    (nonces k cs).Nodup ↔ cs.countP Call.isEncrypt ≤ 1 := by
  have hnonces : nonces k cs = List.replicate (cs.countP Call.isEncrypt) k.generateNonce :=
    Use.calls_nonces ⟨k, []⟩ cs
  rw [hnonces, List.nodup_replicate]

theorem second_nonce_repeated :
    nonces sampleKey [.encrypt [1] [], .encrypt [2] []] = List.replicate 2 (List.replicate 12 0) ∧
      ¬ (nonces sampleKey [.encrypt [1] [], .encrypt [2] []]).Nodup := by
  have hnonces : nonces sampleKey [.encrypt [1] [], .encrypt [2] []] = List.replicate 2 (List.replicate 12 0) := by decide
  refine ⟨hnonces, ?_⟩
  rw [hnonces, List.nodup_replicate]
  omega

end GscFq.EncryptionKey
