import GscFq.CopyLoop

namespace GscFq

open ByteStream CopyLoop Loops StreamIo

inductive Platform where
  | linux
  | macos
  | windows
  | other
  deriving DecidableEq, Repr

namespace ZeroCopy

def bulkCopyOptimized (bufferSize : ℕ) (io : Io IoError) : Outcome :=
  copy ⟨bufferSize, 2 * 1024 * 1024, true, "Bulk copy error: "⟩ 0 io

end ZeroCopy

namespace AdaptiveCopy

def smallFileThreshold : ℕ := 256 * 1024

def optimalBufferSize (p : Platform) (dataSize : ℕ) : ℕ :=
  if dataSize < smallFileThreshold then 8 * 1024
  else
    match p with
    | .linux => 128 * 1024
    | .macos => 256 * 1024
    | .windows => 256 * 1024
    | .other => 128 * 1024

def bulkCopyOptimized (bufferSize : ℕ) (io : Io IoError) : Outcome :=
  let flushInterval := if 256 * 1024 ≤ bufferSize then 4 * 1024 * 1024 else 2 * 1024 * 1024
  copy ⟨bufferSize, flushInterval, true, "Copy error: "⟩ 0 io

/-- `tokioCopy` is `tokio::io::copy`. -/
def adaptiveCopy (tokioCopy : Io IoError → Except IoError ℕ × Io IoError) (p : Platform) (estimatedSize : ℕ)
    (io : Io IoError) : Outcome :=
  let bufferSize := optimalBufferSize p estimatedSize
  if bufferSize = 8 * 1024 then
    match tokioCopy io with
    | (.error e, io) => (.error (.io e), io)
    | (.ok result, io) =>
      match io.flush with
      | (.error e, io) => (.error (.io e), io)
      | (.ok _, io) => (.ok result, io)
  else bulkCopyOptimized bufferSize io

theorem optimalBufferSize_pos (p : Platform) (dataSize : ℕ) : 0 < optimalBufferSize p dataSize := by
  unfold optimalBufferSize
  split
  · omega
  · cases p <;> simp

end AdaptiveCopy

namespace AdaptiveStream

def initialSampleSize : ℕ := 32 * 1024

def minBufferSize : ℕ := 8 * 1024

structure Sampling where
  io : Io IoError
  sample : Bytes

abbrev Sampled := Except AppError (Bytes × Bool) × Io IoError

def sampleBody (s : Sampling) : Turn Sampling Sampled :=
  match s.io.read (initialSampleSize - s.sample.length) with
  | (.data [], io) => .done (.ok (s.sample, true), io)
  | (.data (b :: bs), io) =>
    let sample := s.sample ++ b :: bs
    if initialSampleSize ≤ sample.length then .done (.ok (sample, false), io) else .again ⟨io, sample⟩
  | (.wouldBlock, io) => .again ⟨io, s.sample⟩
  | (.error e, io) => .done (.error (forwardingError "Read error: " e), io)

inductive Samples (s : Sampling) : Turn Sampling Sampled → Prop
  | ended {io : Io IoError} (hr : Reads (initialSampleSize - s.sample.length) s.io (.data [], io)) :
      Samples s (.done (.ok (s.sample, true), io))
  | full {io : Io IoError} {d : Bytes} (hr : Reads (initialSampleSize - s.sample.length) s.io (.data d, io))
      (hlen : initialSampleSize ≤ (s.sample ++ d).length) : Samples s (.done (.ok (s.sample ++ d, false), io))
  | more {io : Io IoError} {d : Bytes} (hd : d ≠ [])
      (hr : Reads (initialSampleSize - s.sample.length) s.io (.data d, io))
      (hlen : (s.sample ++ d).length < initialSampleSize) : Samples s (.again ⟨io, s.sample ++ d⟩)
  | blocked {io : Io IoError} (hr : Reads (initialSampleSize - s.sample.length) s.io (.wouldBlock, io)) :
      Samples s (.again ⟨io, s.sample⟩)
  | failed {io : Io IoError} {e : IoError} (hr : Reads (initialSampleSize - s.sample.length) s.io (.error e, io)) :
      Samples s (.done (.error (forwardingError "Read error: " e), io))

theorem sampleBody_samples (s : Sampling) : Samples s (sampleBody s) := by
  have hread := s.io.read_reads (initialSampleSize - s.sample.length)
  unfold sampleBody
  split
  · rename_i io hr
    rw [hr] at hread
    exact .ended hread
  · rename_i b bs io hr
    rw [hr] at hread
    dsimp only
    split
    · rename_i hlen
      exact .full hread hlen
    · rename_i hlen
      exact .more (List.cons_ne_nil b bs) hread (Nat.lt_of_not_le hlen)
  · rename_i io hr
    rw [hr] at hread
    exact .blocked hread
  · rename_i e io hr
    rw [hr] at hread
    exact .failed hread

theorem sampleBody_decreases (s s' : Sampling) (h : sampleBody s = .again s') :
    s'.io.reader.size < s.io.reader.size := by
  have hturn := sampleBody_samples s
  rw [h] at hturn
  cases hturn with
  | more hd hr => exact hr.size_lt (.inr ⟨_, rfl, hd⟩)
  | blocked hr => exact hr.size_lt (.inl rfl)

def sampleLoop : Loop Sampling Sampled := ⟨sampleBody, fun s => s.io.reader.size, sampleBody_decreases⟩

def readInitialSample (io : Io IoError) : Sampled := sampleLoop.result ⟨io, []⟩

inductive TransferStrategy where
  | smallPacket (bufferSize : ℕ)
  | burstTraffic (bufferSize flushInterval : ℕ)
  | continuousStream (bufferSize flushInterval : ℕ)
  deriving DecidableEq, Repr

def TransferStrategy.bufferSize : TransferStrategy → ℕ
  | .smallPacket bufferSize => bufferSize
  | .burstTraffic bufferSize _ => bufferSize
  | .continuousStream bufferSize _ => bufferSize

def analyzeTrafficPattern (p : Platform) (sampleSize : ℕ) (isEos : Bool) : TransferStrategy :=
  if isEos then .smallPacket minBufferSize
  else if sampleSize < 16 * 1024 then .smallPacket (16 * 1024)
  else
    match p with
    | .linux =>
      if sampleSize < 64 * 1024 then .burstTraffic (64 * 1024) (128 * 1024)
      else .continuousStream (128 * 1024) (4 * 1024 * 1024)
    | _ =>
      if sampleSize < 64 * 1024 then .burstTraffic (128 * 1024) (256 * 1024)
      else .continuousStream (256 * 1024) (4 * 1024 * 1024)

def executeAdaptiveTransfer (strategy : TransferStrategy) (total : ℕ) (io : Io IoError) : Outcome :=
  match strategy with
  | .smallPacket bufferSize => copy ⟨bufferSize, bufferSize, true, "Transfer error: "⟩ total io
  | .burstTraffic bufferSize flushInterval => copy ⟨bufferSize, flushInterval, true, "Transfer error: "⟩ total io
  | .continuousStream bufferSize flushInterval => copy ⟨bufferSize, flushInterval, false, "Transfer error: "⟩ total io

def writeLast (sample : Bytes) (io : Io IoError) : Outcome :=
  match io.writeAll sample with
  | (.error e, io) => (.error (.io e), io)
  | (.ok _, io) =>
    match io.flush with
    | (.error e, io) => (.error (.io e), io)
    | (.ok _, io) => (.ok sample.length, io)

def adaptiveStreamCopy (p : Platform) (io : Io IoError) : Outcome :=
  match readInitialSample io with
  | (.error e, io) => (.error e, io)
  | (.ok (sample, true), io) => writeLast sample io
  | (.ok (sample, false), io) =>
    match io.writeAll sample with
    | (.error e, io) => (.error (.io e), io)
    | (.ok _, io) => executeAdaptiveTransfer (analyzeTrafficPattern p sample.length false) sample.length io

structure Sampling.Held (stream : Bytes) (s : Sampling) : Prop where
  behind : Behind stream s.io
  written : bytesWritten s.io.trace = []
  read : bytesRead s.io.trace = s.sample
  room : s.sample.length < initialSampleSize

/-- A sample: the whole stream if it ended, and otherwise a full window. -/
structure Taken (stream sample : Bytes) (isEos : Bool) (io : Io IoError) : Prop where
  behind : Behind stream io
  written : bytesWritten io.trace = []
  read : bytesRead io.trace = sample
  ended : isEos = true → sample = stream ∧ sample.length < initialSampleSize
  full : isEos = false → sample.length = initialSampleSize

theorem Sampling.Held.got {stream d : Bytes} {s : Sampling} {io : Io IoError} (h : s.Held stream)
    (hr : Reads (initialSampleSize - s.sample.length) s.io (.data d, io)) :
    Behind stream io ∧ bytesWritten io.trace = [] ∧ bytesRead io.trace = s.sample ++ d ∧
      (s.sample ++ d).length ≤ initialSampleSize := by
  obtain ⟨hread, hwritten⟩ := hr.bytesRead
  refine ⟨h.behind.reads hr, hwritten.trans h.written, by rw [hread, h.read], ?_⟩
  have hroom := h.room
  have hlen : d.length ≤ initialSampleSize - s.sample.length := by
    cases hr with
    | ended => exact Nat.zero_le _
    | got _ _ hlen => exact hlen
  rw [List.length_append]
  omega

theorem Sampling.Held.again {stream : Bytes} {s s' : Sampling} (h : s.Held stream)
    (ht : Samples s (.again s')) : s'.Held stream := by
  cases ht with
  | more _ hr hlen =>
    obtain ⟨hbehind, hwritten, hread, -⟩ := h.got hr
    exact ⟨hbehind, hwritten, hread, hlen⟩
  | blocked hr =>
    have hbehind := h.behind.reads hr
    cases hr with
    | blocked => exact ⟨hbehind, h.written, h.read, h.room⟩

def SampledFrom (stream : Bytes) (r : Sampled) : Prop :=
  Behind stream r.2 ∧ ∀ sample isEos, r.1 = .ok (sample, isEos) → Taken stream sample isEos r.2

theorem Sampling.Held.done {stream : Bytes} {s : Sampling} {r : Sampled} (h : s.Held stream)
    (ht : Samples s (.done r)) : SampledFrom stream r := by
  cases ht with
  | ended hr =>
    obtain ⟨hbehind, hwritten, hread, -⟩ := h.got hr
    rw [List.append_nil] at hread
    refine ⟨hbehind, ?_⟩
    rintro sample isEos ⟨⟩
    refine ⟨hbehind, hwritten, hread, fun _ => ⟨?_, h.room⟩, by simp⟩
    have hempty := (hr.ended_bytes (Nat.sub_pos_of_lt h.room)).2
    rw [hbehind.stream, hempty, hread, List.append_nil]
  | full hr hlen =>
    obtain ⟨hbehind, hwritten, hread, hle⟩ := h.got hr
    refine ⟨hbehind, ?_⟩
    rintro sample isEos ⟨⟩
    exact ⟨hbehind, hwritten, hread, by simp, fun _ => Nat.le_antisymm hle hlen⟩
  | failed hr =>
    refine ⟨h.behind.reads hr, ?_⟩
    rintro sample isEos ⟨⟩

theorem readInitialSample_sampled (reader : Reader IoError) (failures : List (Option (ℕ × IoError))) :
    SampledFrom reader.bytes (readInitialSample (.start reader failures)) := by
  apply sampleLoop.result_turns (I := Sampling.Held reader.bytes) sampleBody_samples
  · intro s s' hs ht
    exact hs.again ht
  · intro s r hs ht
    exact hs.done ht
  · exact ⟨.start reader failures, rfl, rfl, Nat.zero_lt_succ _⟩

theorem Taken.level {stream sample : Bytes} {isEos : Bool} {io io' : Io IoError} (h : Taken stream sample isEos io)
    (hw : Writes sample io (.ok (), io')) : Level stream ⟨io', sample.length, sample.length⟩ := by
  have hle : bytesWritten io.trace ++ sample <+: bytesRead io.trace := by
    rw [h.written, h.read, List.nil_append]
  obtain ⟨hbehind, hread, -, hall⟩ := h.behind.writes hle hw
  refine ⟨hbehind, ?_, ?_⟩
  · rw [hall rfl, hread, h.written, h.read, List.nil_append]
  · change sample.length = (bytesRead io'.trace).length
    rw [hread, h.read]

theorem Taken.unwritten {stream sample : Bytes} {isEos : Bool} {io io' : Io IoError} {e : IoError}
    (h : Taken stream sample isEos io) (hw : Writes sample io (.error e, io')) : Behind stream io' := by
  have hle : bytesWritten io.trace ++ sample <+: bytesRead io.trace := by
    rw [h.written, h.read, List.nil_append]
  exact (h.behind.writes hle hw).1

theorem writeLast_copied {stream sample : Bytes} {io : Io IoError} (h : Taken stream sample true io) :
    Copied stream (writeLast sample io) := by
  have hwrite := io.writeAll_writes sample
  unfold writeLast
  split
  · rename_i e io' hw
    rw [hw] at hwrite
    exact .error _ (h.unwritten hwrite)
  · rename_i u io' hw
    rw [hw] at hwrite
    have hlevel := h.level hwrite
    have hflush := io'.flush_flushes
    split
    · rename_i e io'' hf
      rw [hf] at hflush
      exact .error _ (hlevel.behind.flushes hflush).1
    · rename_i u' io'' hf
      rw [hf] at hflush
      have hlast := hlevel.flushed hflush 0
      obtain ⟨rfl, -⟩ := h.ended rfl
      refine ⟨hlast.behind, ?_⟩
      rintro n ⟨⟩
      have hread : bytesRead io''.trace = sample :=
        List.IsPrefix.eq_of_length ⟨_, hlast.behind.stream.symm⟩ hlast.total.symm
      exact ⟨hlast.written.trans hread, rfl⟩

theorem analyzeTrafficPattern_bufferSize (p : Platform) (sampleSize : ℕ) (isEos : Bool) :
    0 < (analyzeTrafficPattern p sampleSize isEos).bufferSize := by
  unfold analyzeTrafficPattern
  split_ifs
  · exact Nat.zero_lt_succ _
  · exact Nat.zero_lt_succ _
  · cases p <;> exact Nat.zero_lt_succ _
  · cases p <;> exact Nat.zero_lt_succ _

theorem executeAdaptiveTransfer_copied {stream : Bytes} {strategy : TransferStrategy} {total : ℕ} {io : Io IoError}
    (hpos : 0 < strategy.bufferSize) (h : Level stream ⟨io, total, total⟩) :
    Copied stream (executeAdaptiveTransfer strategy total io) := by
  cases strategy with
  | smallPacket n => exact copy_copied hpos h
  | burstTraffic n f => exact copy_copied hpos h
  | continuousStream n f => exact copy_copied hpos h

theorem adaptiveStreamCopy_copied (p : Platform) (reader : Reader IoError) (failures : List (Option (ℕ × IoError))) :
    Copied reader.bytes (adaptiveStreamCopy p (.start reader failures)) := by
  obtain ⟨hbehind, hsample⟩ := readInitialSample_sampled reader failures
  unfold adaptiveStreamCopy
  split
  · rename_i e io hs
    rw [hs] at hbehind
    exact .error e hbehind
  · rename_i sample io hs
    rw [hs] at hsample
    exact writeLast_copied (hsample _ _ rfl)
  · rename_i sample io hs
    rw [hs] at hsample
    have htaken := hsample _ _ rfl
    have hwrite := io.writeAll_writes sample
    split
    · rename_i e io' hw
      rw [hw] at hwrite
      exact .error _ (htaken.unwritten hwrite)
    · rename_i u io' hw
      rw [hw] at hwrite
      exact executeAdaptiveTransfer_copied (analyzeTrafficPattern_bufferSize _ _ _) (htaken.level hwrite)

end AdaptiveStream

namespace AdaptiveCopy

theorem adaptiveCopy_copied {tokioCopy : Io IoError → Except IoError ℕ × Io IoError} {reader : Reader IoError}
    {failures : List (Option (ℕ × IoError))} (htokio : Copied reader.bytes (tokioCopy (.start reader failures)))
    (p : Platform) (estimatedSize : ℕ) :
    Copied reader.bytes (adaptiveCopy tokioCopy p estimatedSize (.start reader failures)) := by
  unfold adaptiveCopy
  dsimp only
  split
  · split
    · rename_i e io hc
      rw [hc] at htokio
      exact .error _ htokio.behind
    · rename_i result io hc
      rw [hc] at htokio
      have hflush := io.flush_flushes
      split
      · rename_i e io' hf
        rw [hf] at hflush
        exact .error _ (htokio.behind.flushes hflush).1
      · rename_i u io' hf
        rw [hf] at hflush
        obtain ⟨hbehind, -, -, hwritten⟩ := htokio.behind.flushes hflush
        refine ⟨hbehind, ?_⟩
        rintro n ⟨⟩
        obtain ⟨hall, hn⟩ := htokio.all result rfl
        exact ⟨hwritten.trans hall, hn⟩
  · exact copy_copied (optimalBufferSize_pos p estimatedSize) (.start reader failures)

end AdaptiveCopy

theorem user_space_copies_faithful {tokioCopy : Io IoError → Except IoError ℕ × Io IoError}
    (htokio : ∀ reader failures, Copied reader.bytes (tokioCopy (.start reader failures))) (reader : Reader IoError)
    (failures : List (Option (ℕ × IoError))) :
    (∀ bufferSize, 1 ≤ bufferSize →
        Copied reader.bytes (ZeroCopy.bulkCopyOptimized bufferSize (.start reader failures)) ∧
          Copied reader.bytes (AdaptiveCopy.bulkCopyOptimized bufferSize (.start reader failures))) ∧
      ∀ p, (∀ estimatedSize,
          Copied reader.bytes (AdaptiveCopy.adaptiveCopy tokioCopy p estimatedSize (.start reader failures))) ∧
        Copied reader.bytes (AdaptiveStream.adaptiveStreamCopy p (.start reader failures)) := by
  have hlevel := Level.start reader failures
  constructor
  · intro bufferSize hsize
    exact ⟨copy_copied hsize hlevel, copy_copied hsize hlevel⟩
  · intro p
    constructor
    · intro estimatedSize
      exact AdaptiveCopy.adaptiveCopy_copied (htokio reader failures) p estimatedSize
    · exact AdaptiveStream.adaptiveStreamCopy_copied p reader failures

def plainCopy (io : Io IoError) : Except IoError ℕ × Io IoError :=
  match copy ⟨8 * 1024, 8 * 1024, false, ""⟩ 0 io with
  | (.ok n, io) => (.ok n, io)
  | (.error (.io e), io) => (.error e, io)
  | (.error e, io) => (.error ⟨e.display⟩, io)

theorem plainCopy_copied (reader : Reader IoError) (failures : List (Option (ℕ × IoError))) :
    Copied reader.bytes (plainCopy (.start reader failures)) := by
  have hcopy : Copied reader.bytes (copy ⟨8 * 1024, 8 * 1024, false, ""⟩ 0 (.start reader failures)) :=
    copy_copied (Nat.zero_lt_succ _) (.start reader failures)
  unfold plainCopy
  split
  · rename_i n io hc
    rw [hc] at hcopy
    refine ⟨hcopy.behind, ?_⟩
    rintro m ⟨⟩
    exact hcopy.all n rfl
  · rename_i e io hc
    rw [hc] at hcopy
    exact .error _ hcopy.behind
  · rename_i e io _ hc
    rw [hc] at hcopy
    exact .error _ hcopy.behind

def sampleReader : Reader IoError := ⟨[.chunk 7 [8, 9], .wouldBlock, .chunk 10 []], none⟩

theorem sample_copies_faithful :
    Copied [7, 8, 9, 10] (ZeroCopy.bulkCopyOptimized 2 (.start sampleReader [none, some (1, ⟨"Broken pipe (os error 32)"⟩)])) ∧
      Copied [7, 8, 9, 10] (AdaptiveCopy.adaptiveCopy plainCopy .linux 4 (.start ⟨[.chunk 7 [8, 9, 10]], none⟩ [])) := by
  constructor
  · exact ((user_space_copies_faithful plainCopy_copied sampleReader _).1 2 (by decide)).1
  · exact ((user_space_copies_faithful plainCopy_copied ⟨[.chunk 7 [8, 9, 10]], none⟩ []).2 .linux).1 4

end GscFq
