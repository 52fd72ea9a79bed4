import GscFq.SpliceLoop

namespace GscFq.Splice

open ByteStream

structure Bounded (s : State) : Prop where
  pending : s.stage.pending ≤ s.pipe.length
  draining : ∀ remaining, s.stage = .draining remaining → 0 < remaining
  eof : s.eof = true → ∃ result, s.stage = .returned result
  total : ∀ total, s.stage = .returned (.ok total) → total = s.total

theorem Bounded.of_filling {s t : State} (h : Bounded s) (hs : ∀ result, s.stage ≠ .returned result)
    (ht : t.stage = .filling) (he : t.eof = s.eof) : Bounded t := by
  refine ⟨by simp [ht, Stage.pending], by simp [ht], ?_, by simp [ht]⟩
  intro heof
  obtain ⟨result, hres⟩ := h.eof (he ▸ heof)
  exact absurd hres (hs result)

theorem Bounded.of_returned {t : State} {result : Except AppError ℕ} (ht : t.stage = .returned result)
    (htotal : ∀ total, result = .ok total → total = t.total) : Bounded t := by
  refine ⟨by simp [ht, Stage.pending], by simp [ht], fun _ => ⟨result, ht⟩, ?_⟩
  intro total hok
  rw [ht] at hok
  exact htotal total (Stage.returned.inj hok)

theorem Bounded.move {l : Loop} {s t : State} {e : Event} (h : Bounded s) (hm : Move l s e t) : Bounded t := by
  cases hm with
  | opened hs => exact h.of_filling (by simp [hs]) rfl rfl
  | drainEmpty hs => exact h.of_filling (by simp [hs]) rfl rfl
  | drainLeft hs _ => exact h.of_filling (by simp [hs]) rfl rfl
  | refused | fillFailed | drainFailed => exact .of_returned rfl (by simp)
  | ended | fillLeft =>
    apply Bounded.of_returned rfl
    rintro total ⟨⟩
    rfl
  | fillAgain | drainAgain => exact h
  | @taken hs n hpos _ hrest =>
    refine ⟨?_, ?_, ?_, ?_⟩
    · change n ≤ (s.pipe ++ s.rest.take n).length
      rw [List.length_append, List.length_take]
      omega
    · rintro remaining ⟨⟩
      exact hpos
    · intro heof
      obtain ⟨result, hres⟩ := h.eof heof
      simp [hs] at hres
    · rintro total ⟨⟩
  | @given remaining n hs hpos hrem hpipe =>
    have hpending : remaining ≤ s.pipe.length := by simpa [hs, Stage.pending] using h.pending
    by_cases hlt : n < remaining
    · have hst : (s.give remaining n).stage = .draining (remaining - n) := by simp [State.give, hlt]
      refine ⟨?_, ?_, ?_, by simp [hst]⟩
      · rw [hst]
        change remaining - n ≤ (s.pipe.drop n).length
        rw [List.length_drop]
        omega
      · intro m hm
        rw [hst] at hm
        cases hm
        omega
      · intro heof
        obtain ⟨result, hres⟩ := h.eof heof
        simp [hs] at hres
    · exact h.of_filling (by simp [hs]) (by simp [State.give, hlt]) rfl

/-- A result that loses nothing: some count or `WouldBlock`, and from the source also its end. -/
def Clean : Event → Bool
  | .pipe _ => true
  | .fill (.error e) => e == .wouldBlock
  | .fill _ => true
  | .drain (.moved _) => true
  | .drain .zero => false
  | .drain (.error e) => e == .wouldBlock

/-- Nothing is stranded in the pipe, and the loop is not left with `Ok` before the end of the source. -/
structure Honest (s : State) : Prop where
  stranded : s.pipe.length = s.stage.pending
  eof : ∀ total, s.stage = .returned (.ok total) → s.eof = true

theorem honest_iff {s : State} (h : ∀ total, s.stage = .returned (.ok total) → s.eof = true) :
    Honest s ↔ s.pipe.length = s.stage.pending := ⟨Honest.stranded, fun hp => ⟨hp, h⟩⟩

theorem zeroCopyError_retry {e : SpliceError} (h : zeroCopyError e = .retry) : e = .wouldBlock := by
  cases e <;> first | rfl | cases h

theorem zeroCopyError_leave {e : SpliceError} (h : zeroCopyError e = .leave) : (e == .wouldBlock) = false := by
  cases e <;> first | rfl | cases h

theorem zeroCopyError_not_fail (e : SpliceError) (err : AppError) : zeroCopyError e ≠ .fail err := by
  cases e <;> simp [zeroCopyError]

theorem not_honest_of_left {s : State} (h : Bounded s) {remaining : ℕ} (hs : s.stage = .draining remaining) :
    ¬ Honest { s with stage := .filling } := by
  intro ht
  have hp : s.pipe.length = 0 := ht.stranded
  have hpending : remaining ≤ s.pipe.length := by simpa [hs, Stage.pending] using h.pending
  have hpos := h.draining remaining hs
  omega

theorem honest_move {l : Loop} (hfill : l.onFillError = zeroCopyError) (hdrain : l.onDrainError = zeroCopyError)
    {s t : State} {e : Event} (h : Bounded s) (hm : Move l s e t) : Honest t ↔ Honest s ∧ Clean e = true := by
  cases hm with
  | opened hs =>
    rw [honest_iff (by simp), honest_iff (by simp [hs]), hs]
    simp [Stage.pending, Clean]
  | refused hs err =>
    rw [honest_iff (by simp), honest_iff (by simp [hs]), hs]
    simp [Stage.pending, Clean]
  | @taken hs n hpos _ hrest =>
    rw [honest_iff (by simp [State.take]), honest_iff (by simp [hs]), hs]
    have hlen : (s.take n).pipe.length = s.pipe.length + n := by
      change (s.pipe ++ s.rest.take n).length = _
      rw [List.length_append, List.length_take, Nat.min_eq_left hrest]
    rw [hlen]
    simp [State.take, Stage.pending, Clean]
  | ended hs =>
    rw [honest_iff (fun _ _ => rfl), honest_iff (by simp [hs]), hs]
    simp [State.finish, Stage.pending, Clean]
  | fillAgain hs hr =>
    rw [hfill] at hr
    simp [zeroCopyError_retry hr, Clean]
  | fillLeft hs hr =>
    rw [hfill] at hr
    -- the loop ends here with `Ok`, and no call has reported the end of the source
    have hnot : ¬ Honest (s.finish (.ok s.total)) := by
      intro ht
      obtain ⟨result, hres⟩ := h.eof (ht.eof _ rfl)
      simp [hs] at hres
    simp [hnot, Clean, zeroCopyError_leave hr]
  | fillFailed hs hr =>
    rw [hfill] at hr
    exact absurd hr (zeroCopyError_not_fail _ _)
  | @given remaining n hs hpos hrem hpipe =>
    have hpending : (s.give remaining n).stage.pending = remaining - n := by
      by_cases hlt : n < remaining
      · simp [State.give, hlt, Stage.pending]
      · simp only [State.give, hlt, if_false, Stage.pending]
        omega
    have hrun : ∀ total, (s.give remaining n).stage ≠ .returned (.ok total) := by
      intro total
      by_cases hlt : n < remaining <;> simp [State.give, hlt]
    rw [honest_iff (fun total ht => absurd ht (hrun total)), honest_iff (by simp [hs]), hpending, hs]
    have hlen : (s.give remaining n).pipe.length = s.pipe.length - n := List.length_drop
    have hiff : s.pipe.length - n = remaining - n ↔ s.pipe.length = remaining := by omega
    rw [hlen, hiff]
    simp [Stage.pending, Clean]
  | drainEmpty hs => simp [not_honest_of_left h hs, Clean]
  | drainAgain hs hr =>
    rw [hdrain] at hr
    simp [zeroCopyError_retry hr, Clean]
  | drainLeft hs hr =>
    rw [hdrain] at hr
    simp [not_honest_of_left h hs, Clean, zeroCopyError_leave hr]
  | drainFailed hs hr =>
    rw [hdrain] at hr
    exact absurd hr (zeroCopyError_not_fail _ _)

theorem zero_copy_honest_iff {l : Loop} (hl : l = zeroCopyC2s ∨ l = zeroCopyS2c) {source : Bytes} {es : List Event}
    {s : State} (h : run l source es = some s) {total : ℕ} (hret : s.stage = .returned (.ok total)) :
    (s.eof = true ∧ total = s.consumed.length) ↔ ∀ e ∈ es, Clean e = true := by
  have hfill : l.onFillError = zeroCopyError := by rcases hl with rfl | rfl <;> rfl
  have hdrain : l.onDrainError = zeroCopyError := by rcases hl with rfl | rfl <;> rfl
  have h₀ : Bounded (.init source) := ⟨Nat.zero_le _, by rintro remaining ⟨⟩, by rintro ⟨⟩, by rintro total ⟨⟩⟩
  have hstep : ∀ u e t, Bounded u → step l u e = some t → Bounded t := fun u e t hu he => hu.move (step_move he)
  have hs : Bounded s := Transitions.run_invariant h h₀ hstep
  have hhonest : Honest s ↔ s.eof = true ∧ total = s.consumed.length := by
    have hsound := run_sound h
    have htotal := hs.total total hret
    have hlen : s.consumed.length = s.total + s.pipe.length := by
      rw [hsound.consumed, List.length_append, hsound.total]
    have hpending : s.stage.pending = 0 := by rw [hret]; rfl
    constructor
    · intro hh
      have hpipe := hh.stranded
      exact ⟨hh.eof total hret, by omega⟩
    · rintro ⟨heof, hall⟩
      exact ⟨by omega, fun _ _ => heof⟩
  rw [← hhonest]
  have hoccurs := Transitions.run_iff_occurs (A := Honest) (C := fun _ e => Clean e = true) h h₀
    ⟨rfl, by rintro total ⟨⟩⟩ hstep (fun u e t hu he => honest_move hfill hdrain hu (step_move he))
  rw [hoccurs, Transitions.forall_occurs_iff_forall_mem h]

def sampleChunk : List Event :=
  [.pipe none, .fill (.moved 3), .drain (.moved 2), .drain (.error .wouldBlock), .drain (.moved 1),
    .fill (.error .wouldBlock), .fill .zero]

theorem sample_chunk_honest :
    ∃ s, run zeroCopyC2s [7, 8, 9] sampleChunk = some s ∧ s.stage = .returned (.ok 3) ∧ s.eof = true ∧
      3 = s.consumed.length := by
  have hrun : (run zeroCopyC2s [7, 8, 9] sampleChunk).map (·.stage) = some (.returned (.ok 3)) := by decide +kernel
  obtain ⟨s, hs, hstage⟩ := Option.map_eq_some_iff.mp hrun
  exact ⟨s, hs, hstage, (zero_copy_honest_iff (.inl rfl) hs hstage).mpr (by decide)⟩

def brokenPipe : List Event :=
  [.pipe none, .fill (.moved 3), .drain (.moved 1), .drain (.error (.other ⟨"Broken pipe (os error 32)"⟩)), .fill .zero]

theorem broken_pipe_reported_ok :
    ∃ s, run zeroCopyC2s [7, 8, 9] brokenPipe = some s ∧ s.stage = .returned (.ok 1) ∧
      ¬ (s.eof = true ∧ 1 = s.consumed.length) := by
  have hrun : (run zeroCopyC2s [7, 8, 9] brokenPipe).map (fun s => (s.stage, s.consumed)) =
      some (.returned (.ok 1), [7, 8, 9]) := by decide +kernel
  obtain ⟨s, hs, he⟩ := Option.map_eq_some_iff.mp hrun
  obtain ⟨hstage, hconsumed⟩ := Prod.mk.inj he
  exact ⟨s, hs, hstage, by simp [hconsumed]⟩

end GscFq.Splice
