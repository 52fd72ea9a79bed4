import GscFq.Protocol

namespace GscFq.ControlMessage

open ByteStream

variable {X : Externals}

theorem writeTo_ok {m : ControlMessage} {bytes : Bytes} (h : m.writeTo X = .ok bytes) :
    ∃ data, X.bincodeSerialize m = .ok data ∧ data.length % 2 ^ 32 ≤ maxMessageSize ∧
      bytes = toBe 4 (data.length % 2 ^ 32) ++ data := by
  unfold writeTo toBytes at h
  cases hs : X.bincodeSerialize m with
  | error e => simp [hs] at h
  | ok data =>
    simp only [hs] at h
    split at h
    · cases h
    · rename_i hl
      simp only [Except.ok.injEq] at h
      exact ⟨data, rfl, Nat.not_lt.mp hl, h.symm⟩

theorem writeTo_of_serialize {m : ControlMessage} {data : Bytes} (h : X.bincodeSerialize m = .ok data)
    (hl : data.length ≤ maxMessageSize) : m.writeTo X = .ok (toBe 4 data.length ++ data) := by
  have hm : data.length % 2 ^ 32 = data.length :=
    Nat.mod_eq_of_lt (hl.trans_lt (by decide))
  unfold writeTo toBytes
  simp only [h, hm]
  rw [if_neg (Nat.not_lt.mpr hl)]

theorem readFrom_eq_ok {m : ControlMessage} {s rest : Stream IoError} :
    readFrom X s = .ok m rest ↔ ∃ lenBytes data s₁, readExact 4 s = .ok lenBytes s₁ ∧ ofBe lenBytes ≤ maxMessageSize ∧
      readExact (ofBe lenBytes) s₁ = .ok data rest ∧ X.bincodeDeserialize data = .ok m := by
  constructor
  · intro h
    unfold readFrom at h
    cases h₁ : readExact 4 s with
    | pending => simp [h₁] at h
    | err e => simp [h₁] at h
    | ok lenBytes s₁ =>
      simp only [h₁] at h
      split at h
      · cases h
      · rename_i hlen
        cases h₂ : readExact (ofBe lenBytes) s₁ with
        | pending => simp [h₂] at h
        | err e => simp [h₂] at h
        | ok data s₂ =>
          simp only [h₂, fromBytes] at h
          cases hd : X.bincodeDeserialize data with
          | error e => simp [hd] at h
          | ok m' =>
            simp only [hd, Read.ok.injEq] at h
            obtain ⟨rfl, rfl⟩ := h
            exact ⟨lenBytes, data, s₁, rfl, Nat.not_lt.mp hlen, h₂, hd⟩
  · rintro ⟨lenBytes, data, s₁, h₁, hlen, h₂, hd⟩
    unfold readFrom fromBytes
    simp only [h₁, h₂, hd]
    rw [if_neg (Nat.not_lt.mpr hlen)]

theorem readFrom_frame {m : ControlMessage} {data tail : Bytes} {s : Stream IoError}
    (hl : data.length ≤ maxMessageSize) (hd : X.bincodeDeserialize data = .ok m)
    (hs : s.bytes = toBe 4 data.length ++ data ++ tail) :
    ∃ rest : Stream IoError, readFrom X s = .ok m rest ∧ rest.bytes = tail ∧ rest.ending = s.ending := by
  rw [List.append_assoc] at hs
  obtain ⟨s₁, h₁, hb₁, he₁⟩ := readExact_of_bytes hs
  rw [toBe_length] at h₁
  obtain ⟨s₂, h₂, hb₂, he₂⟩ := readExact_of_bytes hb₁
  have hv : ofBe (toBe 4 data.length) = data.length :=
    ofBe_toBe 4 _ (hl.trans_lt (by decide))
  have hread : readFrom X s = .ok m s₂ := by
    apply readFrom_eq_ok.mpr
    exact ⟨toBe 4 data.length, data, s₁, h₁, by rw [hv]; exact hl, by rw [hv]; exact h₂, hd⟩
  exact ⟨s₂, hread, hb₂, he₂.trans he₁⟩

theorem readFrom_bytes {m : ControlMessage} {s rest : Stream IoError} (h : readFrom X s = .ok m rest) :
    ∃ lenBytes data, s.bytes = lenBytes ++ (data ++ rest.bytes) ∧ lenBytes.length = 4 ∧
      data.length = ofBe lenBytes ∧ data.length ≤ maxMessageSize ∧ X.bincodeDeserialize data = .ok m := by
  obtain ⟨lenBytes, data, s₁, h₁, hlen, h₂, hd⟩ := readFrom_eq_ok.mp h
  obtain ⟨hl₁, hb₁, -⟩ := readExact_ok h₁
  obtain ⟨hl₂, hb₂, -⟩ := readExact_ok h₂
  exact ⟨lenBytes, data, by rw [hb₁, hb₂], hl₁, hl₂, by rw [hl₂]; exact hlen, hd⟩

theorem readFrom_of_frame {m m' : ControlMessage} {data more tail : Bytes} {s rest : Stream IoError}
    (hl : data.length ≤ maxMessageSize) (hd : X.bincodeDeserialize data = .ok m)
    (hs : s.bytes ++ more = toBe 4 data.length ++ data ++ tail) (h : readFrom X s = .ok m' rest) :
    m' = m ∧ rest.bytes ++ more = tail := by
  obtain ⟨lenBytes, data', hb, hl₁, hl₂, -, hd'⟩ := readFrom_bytes h
  rw [hb, List.append_assoc, List.append_assoc, List.append_assoc] at hs
  obtain ⟨rfl, hs'⟩ := List.append_inj hs (by rw [hl₁, toBe_length])
  rw [ofBe_toBe 4 _ (hl.trans_lt (by decide))] at hl₂
  obtain ⟨rfl, htail⟩ := List.append_inj hs' hl₂
  rw [hd] at hd'
  exact ⟨(Except.ok.inj hd').symm, htail⟩

theorem readFrom_short {s : Stream IoError} (h : s.bytes.length < 4) (ho : s.ending = none) :
    readFrom X s = .pending := by
  simp [readFrom, readExact_short h, ho]

theorem readFrom_unfinished {data more : Bytes} {s : Stream IoError} (hl : data.length ≤ maxMessageSize)
    (hs : s.bytes ++ more = toBe 4 data.length ++ data) (hmore : more ≠ []) :
    readFrom X s = s.ending.elim .pending (fun e => .err (.io e)) := by
  have hlen := congrArg List.length hs
  simp only [List.length_append, toBe_length] at hlen
  have hpos := List.length_pos_iff.mpr hmore
  unfold readFrom
  by_cases h4 : s.bytes.length < 4
  · rw [readExact_short h4]
    cases s.ending <;> rfl
  · have hsplit : s.bytes = toBe 4 data.length ++ s.bytes.drop 4 := by
      conv_lhs => rw [← List.take_append_drop 4 s.bytes]
      congr 1
      have htake := congrArg (List.take 4) hs
      rwa [List.take_append_of_le_length (by omega), List.take_left' (toBe_length 4 _)] at htake
    obtain ⟨s₁, h₁, hb₁, he₁⟩ := readExact_of_bytes hsplit
    rw [toBe_length] at h₁
    have hshort : s₁.bytes.length < data.length := by
      rw [hb₁, List.length_drop]
      omega
    simp only [h₁, ofBe_toBe 4 _ (hl.trans_lt (by decide : maxMessageSize < 256 ^ 4))]
    rw [if_neg (Nat.not_lt.mpr hl), readExact_short hshort, he₁]
    cases s.ending <;> rfl

theorem readFrom_part {data more : Bytes} {s : Stream IoError} (hl : data.length ≤ maxMessageSize)
    (hs : s.bytes ++ more = toBe 4 data.length ++ data) (ho : s.ending = none) (hmore : more ≠ []) :
    readFrom X s = .pending := by
  rw [readFrom_unfinished hl hs hmore, ho]
  rfl

theorem readFrom_pending {s : Stream IoError} (h : readFrom X s = .pending) : s.ending = none := by
  unfold readFrom at h
  cases h₁ : readExact 4 s with
  | pending => exact readExact_pending h₁
  | err e => simp [h₁] at h
  | ok lenBytes s₁ =>
    simp only [h₁] at h
    split at h
    · cases h
    · cases h₂ : readExact (ofBe lenBytes) s₁ with
      | pending => exact (readExact_ok h₁).2.2.symm.trans (readExact_pending h₂)
      | err e => simp [h₂] at h
      | ok data s₂ =>
        simp only [h₂] at h
        cases hf : fromBytes X data <;> simp [hf] at h

theorem readFrom_extends {m : ControlMessage} {s s' rest : Stream IoError} (hs : s.Extends s')
    (h : readFrom X s = .ok m rest) : ∃ rest', readFrom X s' = .ok m rest' := by
  obtain ⟨lenBytes, data, s₁, h₁, hlen, h₂, hd⟩ := readFrom_eq_ok.mp h
  obtain ⟨s₁', h₁', hx₁⟩ := readExact_extends hs h₁
  obtain ⟨s₂', h₂', -⟩ := readExact_extends hx₁ h₂
  exact ⟨s₂', readFrom_eq_ok.mpr ⟨lenBytes, data, s₁', h₁', hlen, h₂', hd⟩⟩

end GscFq.ControlMessage
