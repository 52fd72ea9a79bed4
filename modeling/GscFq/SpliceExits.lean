import GscFq.ZeroCopy

namespace GscFq.Splice

open ByteStream

def destinationFailed : Event → Bool
  | .drain (.error e) => e != .wouldBlock
  | _ => false

def isFill : Event → Bool
  | .fill _ => true
  | _ => false

def StopsFilling (es : List Event) : Prop :=
  ∀ before e after, es = before ++ e :: after → destinationFailed e = true → ∀ f ∈ after, isFill f = false

theorem filling_of_destinationFailed {l : Loop} (hdrain : l.onDrainError = zeroCopyError) {s t : State} {e : Event}
    (hm : Move l s e t) (he : destinationFailed e = true) : t.stage = .filling := by
  cases hm with
  | drainLeft => rfl
  | drainAgain _ hr =>
    rw [hdrain] at hr
    simp [destinationFailed, zeroCopyError_retry hr] at he
  | drainFailed _ hr => exact absurd (hdrain ▸ hr) (zeroCopyError_not_fail _ _)
  | opened | refused | taken | ended | fillAgain | fillLeft | fillFailed | given | drainEmpty => cases he

theorem isFill_of_filling {l : Loop} {s t : State} {e : Event} (h : step l s e = some t) (hs : s.stage = .filling) :
    isFill e = true := by
  cases step_move h with
  | taken | ended | fillAgain | fillLeft | fillFailed => rfl
  | opened hs' => simp [hs] at hs'
  | refused hs' => simp [hs] at hs'
  | given hs' => simp [hs] at hs'
  | drainEmpty hs' => simp [hs] at hs'
  | drainAgain hs' => simp [hs] at hs'
  | drainLeft hs' => simp [hs] at hs'
  | drainFailed hs' => simp [hs] at hs'

theorem zero_copy_stops_filling_iff {l : Loop} (hl : l = zeroCopyC2s ∨ l = zeroCopyS2c) {source : Bytes}
    {es : List Event} {s : State} (h : run l source es = some s) :
    StopsFilling es ↔ ∀ e ∈ es.dropLast, destinationFailed e = false := by
  have hdrain : l.onDrainError = zeroCopyError := by rcases hl with rfl | rfl <;> rfl
  constructor
  · intro hstop e he
    obtain ⟨before, after, hsplit⟩ := List.append_of_mem he
    have hne : es ≠ [] := by
      rintro rfl
      simp at he
    have hes : es = before ++ e :: (after ++ [es.getLast hne]) := by
      rw [← List.cons_append, ← List.append_assoc, ← hsplit, List.dropLast_append_getLast]
    by_contra hfailed
    have hfailed : destinationFailed e = true := by simpa using hfailed
    -- the direction is back at its source, so the next call of the run reads from it
    have hrun := h
    rw [hes] at hrun
    obtain ⟨u, t, -, hut, hafter⟩ := Transitions.run_middle hrun
    have hfilling := filling_of_destinationFailed hdrain (step_move hut) hfailed
    cases after with
    | nil =>
      obtain ⟨v, hv, -⟩ := Option.bind_eq_some_iff.mp hafter
      have hfill := isFill_of_filling hv hfilling
      rw [hstop before e _ hes hfailed _ (by simp)] at hfill
      cases hfill
    | cons f after =>
      obtain ⟨v, hv, -⟩ := Option.bind_eq_some_iff.mp hafter
      have hfill := isFill_of_filling hv hfilling
      rw [hstop before e _ hes hfailed f (by simp)] at hfill
      cases hfill
  · rintro hall before e after rfl hfailed f hf
    have hne : after ≠ [] := List.ne_nil_of_mem hf
    have he : e ∈ (before ++ e :: after).dropLast := by
      rw [List.dropLast_append_of_ne_nil (by simp), List.dropLast_cons_of_ne_nil hne]
      simp
    simp [hall e he] at hfailed

def justFailed : List Event :=
  [.pipe none, .fill (.moved 3), .drain (.error .wouldBlock), .drain (.moved 1),
    .drain (.error (.other ⟨"Broken pipe (os error 32)"⟩))]

theorem just_failed_stops_filling :
    ∃ s, run zeroCopyC2s [7, 8, 9] justFailed = some s ∧ s.stage = .filling ∧ StopsFilling justFailed := by
  have hrun : (run zeroCopyC2s [7, 8, 9] justFailed).map (·.stage) = some .filling := by decide +kernel
  obtain ⟨s, hs, hstage⟩ := Option.map_eq_some_iff.mp hrun
  exact ⟨s, hs, hstage, (zero_copy_stops_filling_iff (.inl rfl) hs).mpr (by decide)⟩

/-- The destination resets the connection after the first chunk, and the direction goes on reading from its source. -/
def drainedPeer : List Event :=
  [.pipe none, .fill (.moved 2), .drain (.error (.other ⟨"Connection reset by peer (os error 104)"⟩)), .fill (.moved 1),
    .drain (.error (.other ⟨"Broken pipe (os error 32)"⟩)), .fill .zero]

theorem dead_destination_read_on :
    ∃ s, run zeroCopyC2s [7, 8, 9] drainedPeer = some s ∧ s.consumed = [7, 8, 9] ∧ s.delivered = [] ∧
      ¬ StopsFilling drainedPeer := by
  have hrun : (run zeroCopyC2s [7, 8, 9] drainedPeer).map (fun s => (s.consumed, s.delivered)) =
      some ([7, 8, 9], []) := by decide +kernel
  obtain ⟨s, hs, he⟩ := Option.map_eq_some_iff.mp hrun
  obtain ⟨hconsumed, hdelivered⟩ := Prod.mk.inj he
  refine ⟨s, hs, hconsumed, hdelivered, ?_⟩
  intro hstop
  have hfill := hstop [.pipe none, .fill (.moved 2)] _ _ rfl rfl (.fill (.moved 1)) (by simp)
  cases hfill

/-- The splice optimizer's loops: both stages retry after `WouldBlock` and `Interrupted` and fail on every other error. -/
structure Retries (l : Loop) : Prop where
  fill : ∃ label, l.onFillError = spliceError label
  drain : ∃ label, l.onDrainError = spliceError label

theorem spliceBlocking_retries : Retries spliceBlocking := ⟨⟨_, rfl⟩, ⟨_, rfl⟩⟩

theorem spliceAdaptiveBlocking_retries (chunkSize : ℕ) : Retries (spliceAdaptiveBlocking chunkSize) :=
  ⟨⟨_, rfl⟩, ⟨_, rfl⟩⟩

theorem spliceError_not_leave (label : String) (e : SpliceError) : spliceError label e ≠ .leave := by
  cases e <;> simp [spliceError]

theorem spliceError_retry {label : String} {e : SpliceError} (h : spliceError label e = .retry) (err : IoError) :
    e ≠ .other err := by
  rintro rfl
  cases h

theorem Retries.fill_not_leave {l : Loop} (h : Retries l) (e : SpliceError) : l.onFillError e ≠ .leave := by
  obtain ⟨label, hl⟩ := h.fill
  rw [hl]
  exact spliceError_not_leave label e

theorem Retries.drain_not_leave {l : Loop} (h : Retries l) (e : SpliceError) : l.onDrainError e ≠ .leave := by
  obtain ⟨label, hl⟩ := h.drain
  rw [hl]
  exact spliceError_not_leave label e

theorem Retries.fill_retry {l : Loop} (h : Retries l) {e : SpliceError} (hr : l.onFillError e = .retry)
    (err : IoError) : e ≠ .other err := by
  obtain ⟨label, hl⟩ := h.fill
  rw [hl] at hr
  exact spliceError_retry hr err

theorem Retries.drain_retry {l : Loop} (h : Retries l) {e : SpliceError} (hr : l.onDrainError e = .retry)
    (err : IoError) : e ≠ .other err := by
  obtain ⟨label, hl⟩ := h.drain
  rw [hl] at hr
  exact spliceError_retry hr err

def Stage.failed : Stage → Bool
  | .returned (.error _) => true
  | _ => false

/-- Until a stage fails, the pipe holds what `drain` has still to move, and only the end of the source gives `Ok`. -/
structure Delivering (s : State) : Prop where
  bounded : Bounded s
  stranded : s.stage.failed = false → s.pipe.length = s.stage.pending
  eof : ∀ total, s.stage = .returned (.ok total) → s.eof = true

theorem Delivering.move {l : Loop} (hl : Retries l) {s t : State} {e : Event} (hz : e = .drain .zero → s.pipe = [])
    (h : Delivering s) (hm : Move l s e t) : Delivering t := by
  refine ⟨h.bounded.move hm, ?_, ?_⟩
  · cases hm with
    | opened hs =>
      intro _
      have hp := h.stranded (by rw [hs]; rfl)
      rwa [hs] at hp
    | refused | fillFailed | drainFailed => exact fun hf => by cases hf
    | @taken hs n _ _ hrest =>
      intro _
      have hp : s.pipe.length = 0 := by simpa [hs, Stage.pending] using h.stranded (by rw [hs]; rfl)
      change (s.pipe ++ s.rest.take n).length = n
      rw [List.length_append, List.length_take]
      omega
    | ended hs =>
      intro _
      simpa [hs, Stage.pending, State.finish] using h.stranded (by rw [hs]; rfl)
    | fillAgain | drainAgain => exact h.stranded
    | fillLeft _ hr => exact absurd hr (hl.fill_not_leave _)
    | @given remaining n hs _ hrem _ =>
      intro _
      have hp : s.pipe.length = remaining := by simpa [hs, Stage.pending] using h.stranded (by rw [hs]; rfl)
      change (s.pipe.drop n).length = _
      rw [List.length_drop]
      by_cases hlt : n < remaining
      · simp only [State.give, hlt, ↓reduceIte, Stage.pending]
        omega
      · simp only [State.give, hlt, ↓reduceIte, Stage.pending]
        omega
    | @drainEmpty remaining hs =>
      -- something was still to be moved, so the pipe was not empty
      have hpending : remaining ≤ s.pipe.length := by simpa [hs, Stage.pending] using h.bounded.pending
      have hpos := h.bounded.draining remaining hs
      rw [hz rfl, List.length_nil] at hpending
      omega
    | drainLeft _ hr => exact absurd hr (hl.drain_not_leave _)
  · cases hm with
    | ended => exact fun _ _ => rfl
    | fillAgain | drainAgain => exact h.eof
    | opened | refused | taken | fillFailed | drainEmpty | drainFailed => rintro total ⟨⟩
    | fillLeft _ hr => exact absurd hr (hl.fill_not_leave _)
    | drainLeft _ hr => exact absurd hr (hl.drain_not_leave _)
    | @given remaining n =>
      intro total ht
      simp only [State.give] at ht
      split at ht <;> cases ht

def stageFailed : Event → Bool
  | .fill (.error (.other _)) => true
  | .drain (.error (.other _)) => true
  | _ => false

theorem failed_of_stageFailed {l : Loop} (hl : Retries l) {s t : State} {e : Event} (hm : Move l s e t)
    (he : stageFailed e = true) : t.stage.failed = true := by
  cases hm with
  | fillFailed | drainFailed => rfl
  | fillLeft _ hr => exact absurd hr (hl.fill_not_leave _)
  | drainLeft _ hr => exact absurd hr (hl.drain_not_leave _)
  | @fillAgain _ err hr =>
    cases err with
    | wouldBlock | interrupted => cases he
    | other err => exact absurd rfl (hl.fill_retry hr err)
  | @drainAgain _ _ err hr =>
    cases err with
    | wouldBlock | interrupted => cases he
    | other err => exact absurd rfl (hl.drain_retry hr err)
  | opened | refused | taken | ended | given | drainEmpty => cases he

theorem step_of_failed {l : Loop} {s : State} (hs : s.stage.failed = true) (e : Event) : step l s e = none := by
  cases hst : s.stage with
  | returned result =>
    unfold step
    rw [hst]
  | opening | filling | draining => simp [hst, Stage.failed] at hs

def Stage.holdsPipe : Stage → Bool
  | .filling => true
  | .draining _ => true
  | _ => false

/-- How often the two ends of the pipe have been closed, and at which stages the run `es` holds them. -/
structure Descriptors (es : List Event) (s : State) : Prop where
  opening : s.stage = .opening → .pipe none ∉ es
  held : s.stage.holdsPipe = true → .pipe none ∈ es ∧ s.closedRead = 0 ∧ s.closedWrite = 0
  untouched : .pipe none ∉ es → s.closedRead = 0 ∧ s.closedWrite = 0
  closed : ∀ result, s.stage = .returned result → .pipe none ∈ es → s.closedRead = 1 ∧ s.closedWrite = 1

theorem Descriptors.keep {es : List Event} {s t : State} {e : Event} (h : Descriptors es s)
    (hs : s.stage.holdsPipe = true) (ht : t.stage.holdsPipe = true) (hread : t.closedRead = s.closedRead)
    (hwrite : t.closedWrite = s.closedWrite) : Descriptors (es ++ [e]) t := by
  obtain ⟨hmem, hr, hw⟩ := h.held hs
  have hmem : .pipe none ∈ es ++ [e] := List.mem_append_left _ hmem
  refine ⟨?_, fun _ => ⟨hmem, hread.trans hr, hwrite.trans hw⟩, fun hno => absurd hmem hno, ?_⟩
  · intro hst
    rw [hst] at ht
    cases ht
  · intro result hst
    rw [hst] at ht
    cases ht

theorem Descriptors.finish {es : List Event} {s : State} {e : Event} (h : Descriptors es s)
    (hs : s.stage.holdsPipe = true) (result : Except AppError ℕ) : Descriptors (es ++ [e]) (s.finish result) := by
  obtain ⟨hmem, hr, hw⟩ := h.held hs
  have hmem : .pipe none ∈ es ++ [e] := List.mem_append_left _ hmem
  refine ⟨?_, ?_, fun hno => absurd hmem hno, fun _ _ _ => ⟨?_, ?_⟩⟩
  · rintro ⟨⟩
  · rintro ⟨⟩
  · change s.closedRead + 1 = 1
    omega
  · change s.closedWrite + 1 = 1
    omega

theorem holdsPipe_give (s : State) (remaining n : ℕ) : (s.give remaining n).stage.holdsPipe = true := by
  simp only [State.give]
  split <;> rfl

theorem Descriptors.move {l : Loop} {es : List Event} {s t : State} {e : Event} (h : Descriptors es s)
    (hm : Move l s e t) : Descriptors (es ++ [e]) t := by
  cases hm with
  | opened hs =>
    have hmem : Event.pipe none ∈ es ++ [Event.pipe none] := by simp
    have hzero := h.untouched (h.opening hs)
    refine ⟨?_, fun _ => ⟨hmem, hzero⟩, fun hno => absurd hmem hno, ?_⟩
    · rintro ⟨⟩
    · rintro result ⟨⟩
  | refused hs err =>
    have hno : Event.pipe none ∉ es ++ [Event.pipe (some err)] := by simpa using h.opening hs
    refine ⟨fun _ => hno, ?_, fun _ => h.untouched (h.opening hs), fun _ _ hmem => absurd hmem hno⟩
    rintro ⟨⟩
  | taken hs => exact h.keep (by rw [hs]; rfl) rfl rfl rfl
  | ended hs =>
    have heof : Descriptors es { s with eof := true } := ⟨h.opening, h.held, h.untouched, h.closed⟩
    exact heof.finish (by simp [hs, Stage.holdsPipe]) _
  | fillAgain hs | drainAgain hs =>
    have hp : s.stage.holdsPipe = true := by rw [hs]; rfl
    exact h.keep hp hp rfl rfl
  | fillLeft hs | fillFailed hs | drainFailed hs => exact h.finish (by rw [hs]; rfl) _
  | given hs => exact h.keep (by rw [hs]; rfl) (holdsPipe_give s _ _) rfl rfl
  | drainEmpty hs | drainLeft hs => exact h.keep (by rw [hs]; rfl) rfl rfl rfl

theorem run_descriptors {l : Loop} {source : Bytes} {es : List Event} {s : State} (h : run l source es = some s) :
    Descriptors es s := by
  apply Transitions.run_history h
  · refine ⟨fun _ => List.not_mem_nil, ?_, fun _ => ⟨rfl, rfl⟩, ?_⟩
    · rintro ⟨⟩
    · rintro result ⟨⟩
  · intro es u e t _ hu he
    exact hu.move (step_move he)

theorem run_failed {l : Loop} (hl : Retries l) {source : Bytes} {es : List Event} {s : State}
    (h : run l source es = some s) : (∃ e ∈ es, stageFailed e = true) → s.stage.failed = true := by
  apply Transitions.run_history (I := fun es s => (∃ e ∈ es, stageFailed e = true) → s.stage.failed = true) h
  · rintro ⟨e, he, -⟩
    cases he
  · rintro es u e t - hu he ⟨f, hf, hfailed⟩
    rcases List.mem_append.mp hf with hf | hf
    · rw [step_of_failed (hu ⟨f, hf, hfailed⟩) e] at he
      cases he
    · rw [List.mem_singleton.mp hf] at hfailed
      exact failed_of_stageFailed hl (step_move he) hfailed

theorem run_delivering {l : Loop} (hl : Retries l) {source : Bytes} {es : List Event} {s : State}
    (h : run l source es = some s)
    (hzero : ∀ u, Transitions.Occurs (step l) (.init source) es u (.drain .zero) → u.pipe = []) : Delivering s := by
  apply Transitions.run_invariant_occurs (C := fun u e => e = .drain .zero → u.pipe = []) h
  · rintro u e ho rfl
    exact hzero u ho
  · refine ⟨⟨Nat.zero_le _, ?_, ?_, ?_⟩, fun _ => rfl, ?_⟩
    · rintro remaining ⟨⟩
    · rintro ⟨⟩
    · rintro total ⟨⟩
    · rintro total ⟨⟩
  · intro u e t hz hu he
    exact hu.move hl hz (step_move he)

/-- What a call of the optimizer returns, after the run `es`, against what it did. -/
structure Reported (l : Loop) (es : List Event) (s : State) : Prop where
  delivered : ∀ total, s.stage = .returned (.ok total) →
    0 < l.chunk ∧ s.eof = true ∧ s.delivered = s.consumed ∧ total = s.consumed.length
  failed : ∀ e ∈ es, stageFailed e = true → ∃ err, s.stage = .returned (.error err)
  closed : ∀ result, s.stage = .returned result → .pipe none ∈ es → s.closedRead = 1 ∧ s.closedWrite = 1
  unopened : .pipe none ∉ es → s.closedRead = 0 ∧ s.closedWrite = 0

theorem splice_reports_what_it_did {l : Loop}
    (hl : l = spliceBlocking ∨ ∃ chunkSize, 1 ≤ chunkSize ∧ l = spliceAdaptiveBlocking chunkSize) {source : Bytes}
    {es : List Event} {s : State} (h : run l source es = some s)
    (hzero : ∀ u, Transitions.Occurs (step l) (.init source) es u (.drain .zero) → u.pipe = []) : Reported l es s := by
  have hretries : Retries l := by
    rcases hl with rfl | ⟨chunkSize, -, rfl⟩
    · exact spliceBlocking_retries
    · exact spliceAdaptiveBlocking_retries chunkSize
  have hchunk : 0 < l.chunk := by
    rcases hl with rfl | ⟨chunkSize, hpos, rfl⟩
    · decide
    · exact hpos
  have hd := run_descriptors h
  refine ⟨?_, ?_, hd.closed, hd.untouched⟩
  · intro total hret
    have hdel := run_delivering hretries h hzero
    have hsound := run_sound h
    have hpipe : s.pipe = [] := by
      apply List.eq_nil_of_length_eq_zero
      simpa [hret, Stage.pending] using hdel.stranded (by rw [hret]; rfl)
    have hall : s.consumed = s.delivered := by rw [hsound.consumed, hpipe, List.append_nil]
    refine ⟨hchunk, hdel.eof total hret, hall.symm, ?_⟩
    rw [hdel.bounded.total total hret, hsound.total, hall]
  · intro e he hfailed
    have hf := run_failed hretries h ⟨e, he, hfailed⟩
    cases hst : s.stage with
    | opening | filling | draining => simp [hst, Stage.failed] at hf
    | returned result =>
      cases result with
      | error err => exact ⟨err, rfl⟩
      | ok total => simp [hst, Stage.failed] at hf

def interruptedChunk : List Event :=
  [.pipe none, .fill (.moved 3), .drain (.moved 2), .drain (.error .interrupted), .drain (.moved 1),
    .fill (.error .interrupted), .fill .zero]

theorem interrupted_chunk_reported :
    ∃ s, run spliceBlocking [7, 8, 9] interruptedChunk = some s ∧ s.stage = .returned (.ok 3) ∧
      Reported spliceBlocking interruptedChunk s := by
  have hrun : (run spliceBlocking [7, 8, 9] interruptedChunk).map (·.stage) = some (.returned (.ok 3)) := by
    decide +kernel
  obtain ⟨s, hs, hstage⟩ := Option.map_eq_some_iff.mp hrun
  refine ⟨s, hs, hstage, splice_reports_what_it_did (.inl rfl) hs ?_⟩
  intro u ho
  exact absurd ho.mem (by decide)

end GscFq.Splice
