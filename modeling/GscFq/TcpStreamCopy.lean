import GscFq.StreamCopies

namespace GscFq.AdaptiveStream

open ByteStream CopyLoop Loops StreamIo

/-- `spliceAdaptive` takes over the two sockets after the sample. -/
def adaptiveTcpStreamCopy (spliceAdaptive : Io IoError → ℕ → Outcome) (io : Io IoError) : Outcome :=
  match readInitialSample io with
  | (.error e, io) => (.error e, io)
  | (.ok (sample, true), io) => writeLast sample io
  | (.ok (sample, false), io) =>
    match writeLast sample io with
    | (.error e, io) => (.error e, io)
    | (.ok _, io) =>
      if 64 * 1024 ≤ sample.length then
        match spliceAdaptive io sample.length with
        | (.ok bytes, io) => (.ok (bytes + sample.length), io)
        | (.error e, io) => (.error e, io)
      else (.error (.proxy (.forwardingFailed "TcpStream 小数据流需要单独处理")), io)

theorem readInitialSample_total {io : Io IoError} (h : io.reader.ending = none) :
    ((readInitialSample io).2.failures = io.failures ∧ (readInitialSample io).2.reader.ending = none) ∧
      ∃ sample isEos, (readInitialSample io).1 = .ok (sample, isEos) := by
  apply sampleLoop.result_turns (I := fun s => s.io.failures = io.failures ∧ s.io.reader.ending = none)
    (Q := fun r => (r.2.failures = io.failures ∧ r.2.reader.ending = none) ∧ ∃ sample isEos, r.1 = .ok (sample, isEos))
    sampleBody_samples _ _ ⟨rfl, h⟩
  · intro s s' hs ht
    cases ht with
    | more _ hr => exact ⟨hr.quiet.1.trans hs.1, hr.quiet.2.trans hs.2⟩
    | blocked hr => exact ⟨hr.quiet.1.trans hs.1, hr.quiet.2.trans hs.2⟩
  · intro s r hs ht
    cases ht with
    | ended hr => exact ⟨⟨hr.quiet.1.trans hs.1, hr.quiet.2.trans hs.2⟩, _, _, rfl⟩
    | full hr => exact ⟨⟨hr.quiet.1.trans hs.1, hr.quiet.2.trans hs.2⟩, _, _, rfl⟩
    | failed hr =>
      have hending := hr.error_ending
      rw [hs.2] at hending
      cases hending

theorem writeLast_reliable {sample : Bytes} {io : Io IoError} (h : io.Reliable) :
    (writeLast sample io).1 = .ok sample.length := by
  have hwrite := h.writes (io.writeAll_writes sample)
  unfold writeLast
  split
  · rename_i e io' hw
    rw [hw] at hwrite
    cases hwrite.1
  · rename_i u io' hw
    rw [hw] at hwrite
    have hflush := hwrite.2.flushes io'.flush_flushes
    split
    · rename_i e io'' hf
      rw [hf] at hflush
      cases hflush.1
    · rfl

theorem readInitialSample_taken {reader : Reader IoError} (h : reader.ending = none)
    (failures : List (Option (ℕ × IoError))) :
    ∃ sample isEos io, readInitialSample (.start reader failures) = (.ok (sample, isEos), io) ∧
      io.failures = failures ∧ io.reader.ending = none ∧ Taken reader.bytes sample isEos io := by
  have hstart : (Io.start reader failures).reader.ending = none := h
  obtain ⟨⟨hfailures, hending⟩, sample, isEos, hok⟩ := readInitialSample_total hstart
  have htaken := (readInitialSample_sampled reader failures).2 sample isEos hok
  exact ⟨sample, isEos, _, Prod.ext hok rfl, hfailures, hending, htaken⟩

theorem adaptiveStreamCopy_reliable (p : Platform) {reader : Reader IoError} (h : reader.ending = none) :
    (adaptiveStreamCopy p (.start reader [])).1 = .ok reader.bytes.length ∧
      bytesWritten (adaptiveStreamCopy p (.start reader [])).2.trace = reader.bytes := by
  have hcopied := adaptiveStreamCopy_copied p reader []
  have hok : ∃ n, (adaptiveStreamCopy p (.start reader [])).1 = .ok n := by
    obtain ⟨sample, isEos, io, hs, hfailures, hending, -⟩ := readInitialSample_taken h []
    have hrel : io.Reliable := ⟨hfailures, hending⟩
    rw [adaptiveStreamCopy, hs]
    cases isEos with
    | true => exact ⟨_, writeLast_reliable hrel⟩
    | false =>
      have hwrite := hrel.writes (io.writeAll_writes sample)
      dsimp only
      split
      · rename_i e io' hw
        rw [hw] at hwrite
        cases hwrite.1
      · rename_i u io' hw
        rw [hw] at hwrite
        unfold executeAdaptiveTransfer
        split <;> exact copy_reliable hwrite.2
  obtain ⟨n, hn⟩ := hok
  obtain ⟨hall, hlen⟩ := hcopied.all n hn
  exact ⟨by rw [hn, hlen], hall⟩

variable (spliceAdaptive : Io IoError → ℕ → Outcome)

theorem adaptiveTcpStreamCopy_small (p : Platform) {reader : Reader IoError} (h : reader.ending = none)
    (hlen : reader.bytes.length < initialSampleSize) :
    adaptiveTcpStreamCopy spliceAdaptive (.start reader []) = adaptiveStreamCopy p (.start reader []) := by
  obtain ⟨sample, isEos, io, hs, -, -, htaken⟩ := readInitialSample_taken h []
  cases isEos with
  | true => rw [adaptiveTcpStreamCopy, adaptiveStreamCopy, hs]
  | false =>
    have hfull := htaken.full rfl
    have hstream := congrArg List.length htaken.behind.stream
    rw [htaken.read, List.length_append] at hstream
    omega

theorem adaptiveTcpStreamCopy_large {reader : Reader IoError} (h : reader.ending = none)
    (hlen : initialSampleSize ≤ reader.bytes.length) :
    (adaptiveTcpStreamCopy spliceAdaptive (.start reader [])).1 =
      .error (.proxy (.forwardingFailed "TcpStream 小数据流需要单独处理")) := by
  obtain ⟨sample, isEos, io, hs, hfailures, hending, htaken⟩ := readInitialSample_taken h []
  cases isEos with
  | true =>
    obtain ⟨rfl, hshort⟩ := htaken.ended rfl
    omega
  | false =>
    have hwrite := @writeLast_reliable sample io ⟨hfailures, hending⟩
    have hsize : ¬ 64 * 1024 ≤ sample.length := by
      rw [htaken.full rfl, initialSampleSize]
      omega
    rw [adaptiveTcpStreamCopy, hs]
    dsimp only
    split
    · rename_i e io' hw
      rw [hw] at hwrite
      cases hwrite
    · rw [if_neg hsize]

def Agree (r r' : Outcome) : Prop :=
  ∃ n, r.1 = .ok n ∧ r'.1 = .ok n ∧ bytesWritten r.2.trace = bytesWritten r'.2.trace

theorem tcp_copy_agrees_iff {reader : Reader IoError} (h : reader.ending = none) :
    Agree (adaptiveTcpStreamCopy spliceAdaptive (.start reader [])) (adaptiveStreamCopy .linux (.start reader [])) ↔
      reader.bytes.length < initialSampleSize := by
  constructor
  · rintro ⟨n, hn, -, -⟩
    by_contra hlen
    rw [adaptiveTcpStreamCopy_large spliceAdaptive h (Nat.le_of_not_lt hlen)] at hn
    cases hn
  · intro hlen
    rw [adaptiveTcpStreamCopy_small spliceAdaptive .linux h hlen]
    exact ⟨_, (adaptiveStreamCopy_reliable .linux h).1, (adaptiveStreamCopy_reliable .linux h).1, rfl⟩

def spliceRest (io : Io IoError) (_ : ℕ) : Outcome :=
  let rest := io.reader.bytes
  (.ok rest.length, { io with reader := { io.reader with items := [] }, trace := io.trace ++ [.read rest, .wrote rest] })

theorem sample_tcp_copy_agrees :
    Agree (adaptiveTcpStreamCopy spliceRest (.start sampleReader [])) (adaptiveStreamCopy .linux (.start sampleReader [])) :=
  (tcp_copy_agrees_iff spliceRest rfl).mpr (by decide)

def windowReader : Reader IoError := ⟨[.chunk 0 (List.replicate (32 * 1024 - 1) 0)], none⟩

theorem full_window_refused :
    ¬ Agree (adaptiveTcpStreamCopy spliceRest (.start windowReader []))
        (adaptiveStreamCopy .linux (.start windowReader [])) ∧
      (adaptiveStreamCopy .linux (.start windowReader [])).1 = .ok (32 * 1024) := by
  have hlen : windowReader.bytes.length = 32 * 1024 := by
    rw [Reader.bytes, windowReader, List.flatMap_singleton, Item.bytes, List.length_cons, List.length_replicate]
  constructor
  · rintro ⟨n, hn, -, -⟩
    rw [adaptiveTcpStreamCopy_large spliceRest rfl (by rw [hlen, initialSampleSize])] at hn
    cases hn
  · rw [(adaptiveStreamCopy_reliable .linux rfl).1, hlen]

end GscFq.AdaptiveStream
