import GscFq.LibraryFormats
import GscFq.StreamIo

namespace GscFq.ControlMessage

open ByteStream StreamIo

variable {X : Externals}

/-- `write_to` on a writer, each of whose calls may fail. -/
def writeOn (X : Externals) (m : ControlMessage) (io : Io IoError) : Except AppError Unit × Io IoError :=
  match m.toBytes X with
  | .error e => (.error e, io)
  | .ok data =>
    let len := data.length % 2 ^ 32
    if maxMessageSize < len then (.error (tooLarge len), io)
    else
      match io.writeAll (toBe 4 len) with
      | (.error e, io) => (.error (.io e), io)
      | (.ok _, io) =>
        match io.writeAll data with
        | (.error e, io) => (.error (.io e), io)
        | (.ok _, io) =>
          match io.flush with
          | (.error e, io) => (.error (.io e), io)
          | (.ok _, io) => (.ok (), io)

theorem writeOn_of_writeTo_error {m : ControlMessage} {e : AppError} (h : m.writeTo X = .error e) (io : Io IoError) :
    m.writeOn X io = (.error e, io) := by
  unfold writeTo at h
  unfold writeOn
  cases hdata : m.toBytes X with
  | error e' =>
    simp only [hdata, Except.error.injEq] at h ⊢
    rw [h]
  | ok data =>
    simp only [hdata] at h ⊢
    split at h
    · rename_i hlarge
      rw [if_pos hlarge, Except.error.inj h]
    · cases h

theorem writeAll_start {d : Bytes} (hd : d ≠ []) (reader : Reader IoError) (acts : List Act) :
    Io.writeAll d ⟨reader, [], acts⟩ = (.ok (), ⟨reader, [], acts ++ [.wrote d]⟩) := if_neg hd

theorem writeOn_of_writeTo_ok {m : ControlMessage} {bytes : Bytes} (h : m.writeTo X = .ok bytes)
    (reader : Reader IoError) :
    ∃ io, m.writeOn X (.start reader []) = (.ok (), io) ∧ bytesWritten io.trace = bytes := by
  unfold writeTo at h
  unfold writeOn
  cases hdata : m.toBytes X with
  | error e => simp [hdata] at h
  | ok data =>
    simp only [hdata] at h ⊢
    split at h
    · cases h
    · rename_i hsmall
      obtain rfl := Except.ok.inj h
      have hlen : toBe 4 (data.length % 2 ^ 32) ≠ [] := List.ne_nil_of_length_pos (by rw [toBe_length]; decide)
      rw [if_neg hsmall, Io.start, writeAll_start hlen]
      by_cases hempty : data = []
      · subst hempty
        exact ⟨_, rfl, rfl⟩
      · dsimp only
        rw [writeAll_start hempty]
        exact ⟨_, rfl, by simp [bytesWritten]⟩

/-- On every writer the message is refused as invalid, and the writer is left as it was. -/
def Refused (X : Externals) (m : ControlMessage) : Prop :=
  ∀ io : Io IoError, ∃ reason, m.writeOn X io = (.error (.reverseProxy (.invalidMessage reason)), io)

theorem refused_iff {m : ControlMessage} {data : Bytes} (h : X.bincodeSerialize m = .ok data) :
    Refused X m ↔ maxMessageSize < data.length % 2 ^ 32 := by
  have hto : m.toBytes X = .ok data := by simp only [toBytes, h]
  constructor
  · intro hrefused
    by_contra hsmall
    obtain ⟨reason, hreason⟩ := hrefused (.start ⟨[], none⟩ [])
    have hok : m.writeTo X = .ok (toBe 4 (data.length % 2 ^ 32) ++ data) := by
      simp only [writeTo, hto]
      rw [if_neg hsmall]
    obtain ⟨io, hio, -⟩ := writeOn_of_writeTo_ok hok ⟨[], none⟩
    rw [hio] at hreason
    cases hreason
  · intro hlarge io
    have herr : m.writeTo X = .error (tooLarge (data.length % 2 ^ 32)) := by
      simp only [writeTo, hto]
      rw [if_pos hlarge]
    exact ⟨_, writeOn_of_writeTo_error herr io⟩

theorem mod_le_limit_iff (n : ℕ) : n % 2 ^ 32 ≤ maxMessageSize ↔
    ∃ k, k * 2 ^ 32 ≤ n ∧ n ≤ k * 2 ^ 32 + maxMessageSize := by
  have hlimit : maxMessageSize < 2 ^ 32 := by decide
  constructor
  · intro h
    exact ⟨n / 2 ^ 32, by omega, by omega⟩
  · rintro ⟨k, hk, hle⟩
    have hdiv : n / 2 ^ 32 = k := Nat.div_eq_of_lt_le (by omega) (by omega)
    omega

theorem oversized_refused_iff (hx : X.Lawful) {m : ControlMessage} (hfits : m.encodedSize < 2 ^ 64) :
    (maxMessageSize < m.encodedSize → Refused X m) ↔
      ∀ k, 0 < k → ¬ (k * 2 ^ 32 ≤ m.encodedSize ∧ m.encodedSize ≤ k * 2 ^ 32 + maxMessageSize) := by
  obtain ⟨data, hdata⟩ := hx.serialize_ok m hfits
  rw [refused_iff hdata, hx.serialize_length m data hdata]
  constructor
  · intro h k hk hbetween
    -- a positive multiple of 4 GiB is over the limit by itself
    have hlarge : maxMessageSize < m.encodedSize := by
      have hlimit : maxMessageSize < 2 ^ 32 := by decide
      omega
    exact absurd ((mod_le_limit_iff _).mpr ⟨k, hbetween⟩) (Nat.not_le.mpr (h hlarge))
  · intro h hlarge
    apply Nat.not_le.mp
    intro hsmall
    obtain ⟨k, hk, hle⟩ := (mod_le_limit_iff _).mp hsmall
    have hpos : 0 < k := by
      apply Nat.pos_of_ne_zero
      rintro rfl
      omega
    exact h k hpos ⟨hk, hle⟩

def longToken (n : ℕ) : ControlMessage :=
  .clientHello ⟨protocolVersion, String.ofList (List.replicate n 'a'), none, [], ""⟩

theorem longToken_size (n : ℕ) : (longToken n).encodedSize = n + 30 := by
  have hascii : ∀ c ∈ List.replicate n 'a', c.toNat < 128 := by
    intro c hc
    rw [List.eq_of_mem_replicate hc]
    decide
  have htext : (utf8 (String.ofList (List.replicate n 'a'))).length = n := by
    rw [utf8_ascii hascii, List.length_map, List.length_replicate]
  have hempty : (utf8 "").length = 0 := rfl
  simp only [longToken, encodedSize, textSize, optionSize, listSize, htext, hempty, List.map_nil, List.sum_nil]
  omega

theorem sample_lawful : Bincode.sample.Lawful := Bincode.externals_lawful _ _

theorem long_token_refused : maxMessageSize < (longToken (2 ^ 24)).encodedSize ∧
    Refused Bincode.sample (longToken (2 ^ 24)) := by
  have hsize := longToken_size (2 ^ 24)
  have hlarge : maxMessageSize < (longToken (2 ^ 24)).encodedSize := by
    have hlimit : maxMessageSize = 2 ^ 24 := by decide
    omega
  refine ⟨hlarge, (oversized_refused_iff sample_lawful (by omega)).mpr ?_ hlarge⟩
  intro k hk
  omega

theorem wrapped_written (hx : X.Lawful) {m : ControlMessage} (hsize : m.encodedSize = 2 ^ 32) :
    maxMessageSize < m.encodedSize ∧ ¬ Refused X m ∧
      ∃ data, data.length = 2 ^ 32 ∧ m.writeTo X = .ok ([0, 0, 0, 0] ++ data) := by
  obtain ⟨data, hdata⟩ := hx.serialize_ok m (by omega)
  have hlen : data.length = 2 ^ 32 := (hx.serialize_length m data hdata).trans hsize
  have hmod : data.length % 2 ^ 32 = 0 := hlen ▸ Nat.mod_self _
  have hto : m.toBytes X = .ok data := by simp only [toBytes, hdata]
  refine ⟨by rw [hsize]; decide, ?_, data, hlen, ?_⟩
  · rw [refused_iff hdata, hmod]
    decide
  · simp only [writeTo, hto, hmod]
    rfl

theorem four_gibibytes_written : maxMessageSize < (longToken (2 ^ 32 - 30)).encodedSize ∧
    ¬ Refused Bincode.sample (longToken (2 ^ 32 - 30)) ∧
    ∃ data, data.length = 2 ^ 32 ∧ (longToken (2 ^ 32 - 30)).writeTo Bincode.sample = .ok ([0, 0, 0, 0] ++ data) :=
  wrapped_written sample_lawful (longToken_size (2 ^ 32 - 30))

end GscFq.ControlMessage
