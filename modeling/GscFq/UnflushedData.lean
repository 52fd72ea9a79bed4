import GscFq.StreamCopies

namespace GscFq

open ByteStream CopyLoop Loops StreamIo

/-- The number of bytes written since the last flush. -/
def unflushed (acts : List Act) : ℕ :=
  acts.foldl (fun n act => match act with | .read _ => n | .wrote d => n + d.length | .flushed => 0) 0

def lastRead (acts : List Act) : Option Bytes :=
  acts.foldl (fun last act => match act with | .read d => some d | .wrote _ => last | .flushed => last) none

def ZeroCopy.bulkSettings (bufferSize : ℕ) : Settings := ⟨bufferSize, 2 * 1024 * 1024, true, "Bulk copy error: "⟩

def AdaptiveCopy.bulkSettings (bufferSize : ℕ) : Settings :=
  ⟨bufferSize, if 256 * 1024 ≤ bufferSize then 4 * 1024 * 1024 else 2 * 1024 * 1024, true, "Copy error: "⟩

/-- Less than a flush interval is unflushed when a turn of the copy starts, nothing after a read that did not fill the
buffer, and nothing when it returns `Ok`. -/
structure FlushesSoon (l : Settings) (io : Io IoError) : Prop where
  below : ∀ s, (loop l).Starts ⟨io, 0, 0⟩ s → unflushed s.io.trace < l.flushInterval
  short : ∀ s, (loop l).Starts ⟨io, 0, 0⟩ s → ∀ d, lastRead s.io.trace = some d → d.length < l.bufferSize →
    unflushed s.io.trace = 0
  returned : ∀ n, (copy l 0 io).1 = .ok n → unflushed (copy l 0 io).2.trace = 0

@[simp] theorem unflushed_read (acts : List Act) (d : Bytes) : unflushed (acts ++ [.read d]) = unflushed acts :=
  List.foldl_concat ..

@[simp] theorem unflushed_wrote (acts : List Act) (d : Bytes) :
    unflushed (acts ++ [.wrote d]) = unflushed acts + d.length := List.foldl_concat ..

@[simp] theorem unflushed_flushed (acts : List Act) : unflushed (acts ++ [.flushed]) = 0 := List.foldl_concat ..

@[simp] theorem lastRead_read (acts : List Act) (d : Bytes) : lastRead (acts ++ [.read d]) = some d :=
  List.foldl_concat ..

@[simp] theorem lastRead_wrote (acts : List Act) (d : Bytes) : lastRead (acts ++ [.wrote d]) = lastRead acts :=
  List.foldl_concat ..

namespace CopyLoop

variable {cap : ℕ} {d : Bytes} {io io' : Io IoError} {l : Settings} {s : State}

theorem reads_trace (h : Reads cap io (.data d, io')) : io'.trace = io.trace ++ [.read d] := by
  cases h with
  | ended => rfl
  | got => rfl

theorem writes_trace (hd : d ≠ []) (h : Writes d io (.ok (), io')) : io'.trace = io.trace ++ [.wrote d] := by
  cases h with
  | nothing hnil => exact absurd hnil hd
  | done => rfl

theorem flushes_unflushed (h : Flushes io (.ok (), io')) : unflushed io'.trace = 0 := by
  cases h with
  | done => exact unflushed_flushed io.trace

/-- `lastFlush` is behind `total` by what is unflushed. -/
structure Bounded (l : Settings) (s : State) : Prop where
  count : s.lastFlush + unflushed s.io.trace = s.total
  below : unflushed s.io.trace < l.flushInterval
  short : ∀ d, lastRead s.io.trace = some d → d.length < l.bufferSize → unflushed s.io.trace = 0

theorem Bounded.start (hinterval : 0 < l.flushInterval) (reader : Reader IoError)
    (failures : List (Option (ℕ × IoError))) : Bounded l ⟨.start reader failures, 0, 0⟩ :=
  ⟨rfl, hinterval, fun _ _ _ => rfl⟩

theorem Bounded.again (hinterval : 0 < l.flushInterval) (hshort : l.flushShort = true) {s' : State} (h : Bounded l s)
    (ht : Turns l s (.again s')) : Bounded l s' := by
  have hcount := h.count
  cases ht with
  | copiedFlushed _ _ _ _ hflush =>
    have hnone := flushes_unflushed hflush
    refine ⟨?_, ?_, fun _ _ _ => hnone⟩
    · dsimp only
      rw [hnone]
      rfl
    · dsimp only
      rw [hnone]
      exact hinterval
  | @copied io io' d hd hr hw hsf =>
    have htrace : io'.trace = s.io.trace ++ [.read d] ++ [.wrote d] := by rw [writes_trace hd hw, reads_trace hr]
    have hunflushed : unflushed io'.trace = unflushed s.io.trace + d.length := by
      rw [htrace, unflushed_wrote, unflushed_read]
    simp only [Settings.shouldFlush, hshort, Bool.true_and, Bool.or_eq_false_iff, decide_eq_false_iff_not] at hsf
    obtain ⟨hlong, hfull⟩ := hsf
    refine ⟨?_, ?_, ?_⟩
    · dsimp only
      omega
    · dsimp only
      omega
    · intro d' hlast hlt
      dsimp only at hlast
      rw [htrace, lastRead_wrote, lastRead_read] at hlast
      obtain rfl := Option.some.inj hlast
      exact absurd hlt hfull
  | blocked hr =>
    cases hr with
    | blocked => exact ⟨hcount, h.below, h.short⟩

theorem Bounded.done {r : Outcome} (h : Bounded l s) (ht : Turns l s (.done r)) :
    ∀ n, r.1 = .ok n → unflushed r.2.trace = 0 := by
  have hcount := h.count
  cases ht with
  | ended hr hf =>
    intro n _
    rw [reads_trace hr, unflushed_read]
    omega
  | endedFlushed _ _ hflush => exact fun _ _ => flushes_unflushed hflush
  | endedUnflushed | unwritten | unflushed | failed =>
    rintro n ⟨⟩

theorem flushesSoon (hinterval : 0 < l.flushInterval) (hshort : l.flushShort = true) (reader : Reader IoError)
    (failures : List (Option (ℕ × IoError))) : FlushesSoon l (.start reader failures) := by
  have hstart := Bounded.start hinterval reader failures
  have hbounded : ∀ s, (loop l).Starts ⟨.start reader failures, 0, 0⟩ s → Bounded l s := fun s hs =>
    (loop l).starts_turns (body_turns l) (fun _ _ h ht => h.again hinterval hshort ht) hstart hs
  refine ⟨fun s hs => (hbounded s hs).below, fun s hs => (hbounded s hs).short, ?_⟩
  apply (loop l).result_turns (I := Bounded l) (Q := fun r => ∀ n, r.1 = .ok n → unflushed r.2.trace = 0) (body_turns l)
  · intro s s' h ht
    exact h.again hinterval hshort ht
  · intro s r h ht
    exact h.done ht
  · exact hstart

end CopyLoop

theorem bulk_copies_flush_soon (bufferSize : ℕ) (reader : Reader IoError) (failures : List (Option (ℕ × IoError))) :
    (ZeroCopy.bulkCopyOptimized bufferSize = copy (ZeroCopy.bulkSettings bufferSize) 0 ∧
      FlushesSoon (ZeroCopy.bulkSettings bufferSize) (.start reader failures)) ∧
    AdaptiveCopy.bulkCopyOptimized bufferSize = copy (AdaptiveCopy.bulkSettings bufferSize) 0 ∧
      FlushesSoon (AdaptiveCopy.bulkSettings bufferSize) (.start reader failures) := by
  have hzero : 0 < (ZeroCopy.bulkSettings bufferSize).flushInterval := Nat.zero_lt_succ _
  have hadaptive : 0 < (AdaptiveCopy.bulkSettings bufferSize).flushInterval := by
    dsimp only [AdaptiveCopy.bulkSettings]
    split <;> decide
  exact ⟨⟨rfl, flushesSoon hzero rfl reader failures⟩, rfl, flushesSoon hadaptive rfl reader failures⟩

end GscFq
