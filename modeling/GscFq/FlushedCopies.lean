import GscFq.Lists
import GscFq.TcpStreamCopy

namespace GscFq.AdaptiveStream

open ByteStream CopyLoop Loops StreamIo

def Flushed (acts : List Act) : Prop :=
  ∀ before d after, acts = before ++ .wrote d :: after → .flushed ∈ after

theorem flushed_flush (acts : List Act) : Flushed (acts ++ [.flushed]) := by
  intro before d after h
  rcases Lists.snoc_eq_middle h with ⟨-, -, hact⟩ | ⟨rest, rfl, -⟩
  · cases hact
  · exact List.mem_append_right rest (List.mem_singleton.mpr rfl)

theorem flushed_read {acts : List Act} (b : Bytes) : Flushed (acts ++ [.read b]) ↔ Flushed acts := by
  constructor
  · rintro h before d after rfl
    have hmem := h before d (after ++ [.read b]) (by simp)
    simpa using hmem
  · intro h before d after hs
    rcases Lists.snoc_eq_middle hs with ⟨-, -, hact⟩ | ⟨rest, rfl, hacts⟩
    · cases hact
    · exact List.mem_append_left _ (h before d rest hacts)

theorem not_flushed_wrote (acts : List Act) (d : Bytes) : ¬ Flushed (acts ++ [.wrote d]) := by
  intro h
  cases h acts d [] rfl

theorem Flushed.ended {cap : ℕ} {io io' : Io IoError} (h : Reads cap io (.data [], io')) :
    Flushed io'.trace ↔ Flushed io.trace := by
  cases h with
  | ended => exact flushed_read []
  | got => exact flushed_read []

theorem Flushed.flushes {io io' : Io IoError} (h : Flushes io (.ok (), io')) : Flushed io'.trace := by
  cases h with
  | done => exact flushed_flush _

def SuccessFlushed (r : Outcome) : Prop := ∀ n, r.1 = .ok n → 0 < n → Flushed r.2.trace

/-- In the transfer loop, all is flushed unless `lastFlush` is behind `total` or the stream has more to bring. -/
structure Handed (s : CopyLoop.State) : Prop where
  le : s.lastFlush ≤ s.total
  flushed : s.lastFlush = s.total → Flushed s.io.trace ∨ s.io.reader.bytes ≠ []

theorem Handed.again {l : Settings} {s s' : CopyLoop.State} (h : Handed s) (ht : Turns l s (.again s')) : Handed s' := by
  have hle := h.le
  cases ht with
  | copiedFlushed _ _ _ _ hflush => exact ⟨le_rfl, fun _ => .inl (Flushed.flushes hflush)⟩
  | @copied _ _ d hd =>
    have hpos : 0 < d.length := List.length_pos_iff.mpr hd
    refine ⟨?_, ?_⟩
    · change s.lastFlush ≤ s.total + d.length
      omega
    · intro heq
      change s.lastFlush = s.total + d.length at heq
      omega
  | blocked hr =>
    cases hr with
    | blocked hb =>
      refine ⟨hle, ?_⟩
      intro heq
      rw [hb]
      exact h.flushed heq

theorem Handed.done {l : Settings} (hcap : 0 < l.bufferSize) {s : CopyLoop.State} {r : Outcome} (h : Handed s)
    (ht : Turns l s (.done r)) : SuccessFlushed r := by
  cases ht with
  | ended hr hf =>
    intro n _ _
    rw [Flushed.ended hr]
    exact (h.flushed (Nat.le_antisymm h.le hf)).resolve_right (by simp [(hr.ended_bytes hcap).1])
  | endedFlushed _ _ hflush => exact fun n _ _ => Flushed.flushes hflush
  | endedUnflushed | unwritten | unflushed | failed =>
    rintro n ⟨⟩

theorem executeAdaptiveTransfer_flushed {strategy : TransferStrategy} {total : ℕ} {io : Io IoError}
    (hpos : 0 < strategy.bufferSize) (h : io.reader.bytes ≠ []) :
    SuccessFlushed (executeAdaptiveTransfer strategy total io) := by
  have hcopy {l : Settings} (hcap : 0 < l.bufferSize) : SuccessFlushed (copy l total io) := by
    apply (loop l).result_turns (I := Handed) (Q := SuccessFlushed) (body_turns l)
    · intro s s' hs ht
      exact hs.again ht
    · intro s r hs ht
      exact hs.done hcap ht
    · exact ⟨le_rfl, fun _ => .inr h⟩
  unfold executeAdaptiveTransfer
  split <;> exact hcopy hpos

/-- The transfer loop after a sample that took the whole stream: `total` is what the sample counted, and nothing comes. -/
structure Drained (acts : List Act) (count : ℕ) (s : CopyLoop.State) : Prop where
  trace : s.io.trace = acts
  bytes : s.io.reader.bytes = []
  ending : s.io.reader.ending = none
  total : s.total = count
  lastFlush : s.lastFlush = count

theorem Drained.body {l : Settings} {acts : List Act} {count : ℕ} {s : CopyLoop.State} (h : Drained acts count s) :
    (∃ s', CopyLoop.body l s = .again s' ∧ Drained acts count s') ∨
      ∃ io, CopyLoop.body l s = .done (.ok count, io) ∧ io.trace = acts ++ [.read []] := by
  have hbytes := h.bytes
  cases hitems : s.io.reader.items with
  | nil =>
    have hread : s.io.read l.bufferSize = (.data [], { s.io with trace := s.io.trace ++ [.read []] }) := by
      simp only [Io.read, Reader.read, hitems, h.ending]
    have hflush : ¬ s.lastFlush < count := by
      rw [h.lastFlush]
      exact lt_irrefl count
    refine .inr ⟨{ s.io with trace := s.io.trace ++ [.read []] }, ?_, congrArg (· ++ [Act.read []]) h.trace⟩
    simp only [CopyLoop.body, hread, h.total, if_neg hflush]
  | cons item items =>
    simp only [Reader.bytes, hitems, List.flatMap_cons, List.append_eq_nil_iff] at hbytes
    cases item with
    | chunk b bs => cases hbytes.1
    | wouldBlock =>
      have hread : s.io.read l.bufferSize =
          (.wouldBlock, { s.io with reader := { s.io.reader with items := items } }) := by
        simp only [Io.read, Reader.read, hitems]
      refine .inl ⟨{ s with io := { s.io with reader := { s.io.reader with items := items } } }, ?_, ?_⟩
      · simp only [CopyLoop.body, hread]
      · exact ⟨h.trace, hbytes.2, h.ending, h.total, h.lastFlush⟩

theorem executeAdaptiveTransfer_drained {strategy : TransferStrategy} {io : Io IoError} {total : ℕ}
    (hbytes : io.reader.bytes = []) (hending : io.reader.ending = none) :
    (executeAdaptiveTransfer strategy total io).1 = .ok total ∧
      (executeAdaptiveTransfer strategy total io).2.trace = io.trace ++ [.read []] := by
  have hcopy (l : Settings) : (copy l total io).1 = .ok total ∧ (copy l total io).2.trace = io.trace ++ [.read []] := by
    apply (loop l).result_spec (I := Drained io.trace total)
      (Q := fun r => r.1 = .ok total ∧ r.2.trace = io.trace ++ [Act.read []])
    · intro s s' hs hbody
      rcases hs.body (l := l) with ⟨s'', hs'', hd⟩ | ⟨io', hio, -⟩
      · cases hs''.symm.trans hbody
        exact hd
      · cases hio.symm.trans hbody
    · intro s r hs hbody
      rcases hs.body (l := l) with ⟨s'', hs'', -⟩ | ⟨io', hio, htrace⟩
      · cases hs''.symm.trans hbody
      · cases hio.symm.trans hbody
        exact ⟨rfl, htrace⟩
    · exact ⟨rfl, hbytes, hending, rfl, rfl⟩
  unfold executeAdaptiveTransfer
  split <;> exact hcopy _

theorem writeLast_flushed (sample : Bytes) (io : Io IoError) : SuccessFlushed (writeLast sample io) := by
  unfold writeLast
  split
  · rintro n ⟨⟩
  · rename_i u io' hw
    have hflush := io'.flush_flushes
    split
    · rintro n ⟨⟩
    · rename_i u' io'' hf
      rw [hf] at hflush
      exact fun n _ _ => Flushed.flushes hflush

/-- The first call of the sink is the write of the sample. -/
def FirstWriteFails (failures : List (Option (ℕ × IoError))) : Prop := ∃ f, failures.head? = some (some f)

theorem writeAll_sample {sample : Bytes} (hs : sample ≠ []) (io : Io IoError) :
    (FirstWriteFails io.failures ∧ ∃ e io', io.writeAll sample = (.error e, io')) ∨
      (¬ FirstWriteFails io.failures ∧
        io.writeAll sample = (.ok (), { io with failures := io.failures.tail, trace := io.trace ++ [.wrote sample] })) := by
  unfold Io.writeAll FirstWriteFails
  rw [if_neg hs]
  cases hf : io.failures with
  | nil => exact .inr ⟨by simp, rfl⟩
  | cons f failures =>
    cases f with
    | none => exact .inr ⟨by simp, rfl⟩
    | some f => exact .inl ⟨⟨f, rfl⟩, _, _, rfl⟩

theorem initialSampleSize_pos : 0 < initialSampleSize := by decide

theorem full_sample_unflushed (p : Platform) {reader : Reader IoError} (h : reader.ending = none)
    {failures : List (Option (ℕ × IoError))} (hlen : reader.bytes.length = initialSampleSize)
    (hwrite : ¬ FirstWriteFails failures) :
    (adaptiveStreamCopy p (.start reader failures)).1 = .ok initialSampleSize ∧
      ¬ Flushed (adaptiveStreamCopy p (.start reader failures)).2.trace := by
  obtain ⟨sample, isEos, io, hs, hfailures, hending, htaken⟩ := readInitialSample_taken h failures
  have hstream := congrArg List.length htaken.behind.stream
  rw [htaken.read, List.length_append, hlen] at hstream
  cases isEos with
  | true =>
    obtain ⟨rfl, hshort⟩ := htaken.ended rfl
    omega
  | false =>
    have hfull := htaken.full rfl
    have hne : sample ≠ [] := by
      rintro rfl
      exact absurd hfull (by decide)
    have hbytes : io.reader.bytes = [] := List.eq_nil_of_length_eq_zero (by omega)
    rcases writeAll_sample hne io with ⟨hfails, -⟩ | ⟨-, hw⟩
    · exact absurd (hfailures ▸ hfails) hwrite
    · have hdrained := @executeAdaptiveTransfer_drained (analyzeTrafficPattern p sample.length false)
        { io with failures := io.failures.tail, trace := io.trace ++ [.wrote sample] } sample.length hbytes hending
      have hcopy : adaptiveStreamCopy p (.start reader failures) =
          executeAdaptiveTransfer (analyzeTrafficPattern p sample.length false) sample.length
            { io with failures := io.failures.tail, trace := io.trace ++ [.wrote sample] } := by
        rw [adaptiveStreamCopy, hs]
        simp only [hw]
      rw [hcopy, hdrained.1, hdrained.2, flushed_read]
      exact ⟨congrArg _ hfull, not_flushed_wrote _ _⟩

theorem adaptive_stream_flushed_iff (p : Platform) {reader : Reader IoError} (h : reader.ending = none)
    (failures : List (Option (ℕ × IoError))) :
    SuccessFlushed (adaptiveStreamCopy p (.start reader failures)) ↔
      reader.bytes.length ≠ initialSampleSize ∨ FirstWriteFails failures := by
  constructor
  · intro hflushed
    by_contra hno
    obtain ⟨hlen, hwrite⟩ := not_or.mp hno
    obtain ⟨hok, hnot⟩ := full_sample_unflushed p h (not_not.mp hlen) hwrite
    exact hnot (hflushed _ hok initialSampleSize_pos)
  · intro hcond
    obtain ⟨sample, isEos, io, hs, hfailures, -, htaken⟩ := readInitialSample_taken h failures
    rw [adaptiveStreamCopy, hs]
    cases isEos with
    | true => exact writeLast_flushed sample io
    | false =>
      have hfull := htaken.full rfl
      have hne : sample ≠ [] := by
        rintro rfl
        exact absurd hfull (by decide)
      rcases writeAll_sample hne io with ⟨-, e, io', hw⟩ | ⟨hno, hw⟩
      · simp only [hw]
        rintro n ⟨⟩
      · simp only [hw]
        apply executeAdaptiveTransfer_flushed (analyzeTrafficPattern_bufferSize _ _ _)
        rw [hfailures] at hno
        have hlen := hcond.resolve_right hno
        -- the sample is full and the stream is not as long as it, so there is more of it
        intro hbytes
        change io.reader.bytes = [] at hbytes
        have hstream := htaken.behind.stream
        rw [htaken.read, hbytes, List.append_nil] at hstream
        exact hlen (by rw [hstream, hfull])

theorem sample_stream_flushed :
    SuccessFlushed (adaptiveStreamCopy .linux (.start sampleReader [none, none])) :=
  (adaptive_stream_flushed_iff .linux rfl [none, none]).mpr (.inl (by decide))

theorem window_unflushed :
    (adaptiveStreamCopy .linux (.start windowReader [])).1 = .ok (32 * 1024) ∧
      ¬ SuccessFlushed (adaptiveStreamCopy .linux (.start windowReader [])) := by
  have hlen : windowReader.bytes.length = initialSampleSize := by
    rw [Reader.bytes, windowReader, List.flatMap_singleton, Item.bytes, List.length_cons, List.length_replicate]
    rfl
  have hfirst : ¬ FirstWriteFails [] := by rintro ⟨f, ⟨⟩⟩
  obtain ⟨hok, hnot⟩ := full_sample_unflushed .linux rfl hlen hfirst
  refine ⟨?_, fun hflushed => hnot (hflushed _ hok initialSampleSize_pos)⟩
  rw [hok, initialSampleSize]

end GscFq.AdaptiveStream
