import GscFq.ClientLoop

namespace GscFq.ClientLoop

open Broadcast ReverseProxyClient

variable {client : ReverseProxyClient} {earlier : ℕ}

theorem retry_fields (s : State) (outcome : Outcome) : (s.retry outcome).retryCount = s.retryCount + 1 ∧
    (s.retry outcome).outcomes = s.outcomes ++ [outcome] ∧
    (s.retry outcome).stage ≠ .returned (.ok ()) ∧ ∀ e, (s.retry outcome).stage ≠ .returned (.error e) := by
  unfold State.retry
  simp only
  split <;> simp [State.goto]

theorem connect_fields (s : State) (rx : Receiver) : (s.connect client rx).retryCount = s.retryCount ∧
    (s.connect client rx).outcomes = s.outcomes ∧ ∀ r, (s.connect client rx).stage ≠ .returned r := by
  unfold State.connect
  split <;> simp [State.goto]

structure Counted (s : State) : Prop where
  count : s.retryCount = s.outcomes.length
  gaveUp : ∀ e, s.stage = .returned (.error e) → maxRetries ≤ s.outcomes.length

theorem Counted.move {s s' : State} (hs : Counted s) (hm : Move client s s') : Counted s' := by
  cases hm with
  | observed | unobserved | resubscribe | connected | accepted | fail | lose | stop | slept =>
    exact ⟨hs.count, by simp [State.goto]⟩
  | exhausted before budget => exact ⟨hs.count, fun _ _ => hs.count ▸ budget⟩
  | inbound => exact hs
  | @connect rx before =>
    obtain ⟨hcount, hout, hstage⟩ := @connect_fields client s rx
    exact ⟨by rw [hcount, hout, hs.count], fun e he => absurd he (hstage _)⟩
  | @retry outcome e before =>
    obtain ⟨hcount, hout, -, hstage⟩ := retry_fields s outcome
    exact ⟨by rw [hcount, hout, hs.count, List.length_append]; rfl, fun e he => absurd he (hstage e)⟩

theorem run_counted {es : List Event} {s : State} (h : run client earlier es = some s) : Counted s := by
  apply Transitions.run_invariant h
  · exact ⟨rfl, by simp [start]⟩
  · intro u e v hu he
    by_cases hsend : e = .shutdown
    · subst hsend
      cases he
      exact ⟨hu.count, hu.gaveUp⟩
    · exact hu.move (step_move he hsend)

theorem step_outcomes {s s' : State} {e : Event} (h : step client s e = some s') :
    s'.outcomes = s.outcomes ∨ ∃ outcome, s' = s.retry outcome := by
  by_cases hsend : e = .shutdown
  · subst hsend
    cases h
    exact Or.inl rfl
  · cases step_move h hsend with
    | observed | unobserved | exhausted | resubscribe | connected | accepted | inbound | fail | lose
    | stop | slept => exact Or.inl rfl
    | @connect rx before => exact Or.inl (connect_fields s rx).2.1
    | @retry outcome e before => exact Or.inr ⟨outcome, rfl⟩

def CountsLoss (u v : State) : Prop := v.outcomes = u.outcomes ++ [.lost]

/-- The retry budget counts consecutive failures only: `start` gives up after ten attempts in a row
that failed before their handshake was complete, and a lost session puts the counter and the
backoff back to where they started. -/
structure ConsecutiveBudget (client : ReverseProxyClient) (earlier : ℕ) (es : List Event) : Prop where
  gaveUp : Transitions.Along (step client) (fun u => ∀ e, u.stage = .returned (.error e) →
    ∃ before, u.outcomes = before ++ List.replicate maxRetries .failed) (start earlier) es
  fresh : ∀ u e v, Transitions.Occurs (step client) (start earlier) es u e → step client u e = some v →
    CountsLoss u v → v.retryCount = (start earlier).retryCount ∧ v.backoffSeconds = (start earlier).backoffSeconds

theorem loss_counted {es : List Event} {s : State} (h : run client earlier es = some s) (hl : .lost ∈ s.outcomes) :
    ∃ u e v, Transitions.Occurs (step client) (start earlier) es u e ∧ step client u e = some v ∧
      CountsLoss u v ∧ v.retryCount = u.retryCount + 1 := by
  induction es using List.reverseRecOn generalizing s with
  | nil =>
    simp only [run, Transitions.run, Option.some.injEq] at h
    subst h
    simp [start] at hl
  | append_singleton es e ih =>
    obtain ⟨u, hu, he⟩ := Transitions.run_snoc.mp h
    have hearlier : .lost ∈ u.outcomes → ∃ u' e' v, Transitions.Occurs (step client) (start earlier) (es ++ [e]) u' e' ∧
        step client u' e' = some v ∧ CountsLoss u' v ∧ v.retryCount = u'.retryCount + 1 := by
      intro hlu
      obtain ⟨u', e', v, hocc, hrest⟩ := ih hu hlu
      exact ⟨u', e', v, hocc.append [e], hrest⟩
    rcases step_outcomes he with hsame | ⟨outcome, rfl⟩
    · exact hearlier (hsame ▸ hl)
    · rw [(retry_fields u outcome).2.1, List.mem_append, List.mem_singleton] at hl
      rcases hl with hl | rfl
      · exact hearlier hl
      · obtain ⟨hcount, hout, -⟩ := retry_fields u .lost
        exact ⟨u, e, _, Transitions.occurs_last e hu, he, hout, hcount⟩

theorem outcomes_mono {es : List Event} {u s : State} (h : Transitions.run (step client) u es = some s)
    {o : Outcome} (ho : o ∈ u.outcomes) : o ∈ s.outcomes := by
  apply Transitions.run_invariant (I := fun s => o ∈ s.outcomes) h ho
  intro v e w hv he
  rcases step_outcomes he with hsame | ⟨outcome, rfl⟩
  · exact hsame ▸ hv
  · rw [(retry_fields v outcome).2.1]
    exact List.mem_append_left _ hv

theorem consecutive_budget_iff {es : List Event} {s : State} (h : run client earlier es = some s) :
    ConsecutiveBudget client earlier es ↔ .lost ∉ s.outcomes := by
  constructor
  · intro hb hl
    obtain ⟨u, e, v, hocc, hv, hloss, hcount⟩ := loss_counted h hl
    have hzero := (hb.fresh u e v hocc hv hloss).1
    rw [hcount] at hzero
    exact Nat.succ_ne_zero _ hzero
  · intro hno
    constructor
    · rintro before after u rfl hu e he
      have hafter := Transitions.run_rest h hu
      have hfailed : ∀ o ∈ u.outcomes, o = .failed := by
        intro o ho
        cases o with
        | failed => rfl
        | lost => exact absurd (outcomes_mono hafter ho) hno
      have hlen := (run_counted hu).gaveUp e he
      refine ⟨List.replicate (u.outcomes.length - maxRetries) .failed, ?_⟩
      rw [List.replicate_append_replicate, Nat.sub_add_cancel hlen]
      exact List.eq_replicate_of_mem hfailed
    · rintro u e v ⟨before, after, rfl, hu⟩ hv hloss
      have hafter : Transitions.run (step client) v after = some s := by
        simpa [Transitions.run, hv] using Transitions.run_rest h hu
      have hlost : .lost ∈ v.outcomes := by
        rw [hloss]
        exact List.mem_append_right _ (List.mem_singleton_self _)
      exact absurd (outcomes_mono hafter hlost) hno

def failedAttempt : List Event :=
  [.check, .resubscribe, .connect, .connected (.error (.io ⟨"Connection refused"⟩)), .retry]

def failedAttempts (n : ℕ) : List Event := (List.replicate n (failedAttempt ++ [Event.slept])).flatten

def neverConnected : List Event := failedAttempts 9 ++ failedAttempt ++ [Event.check, Event.resubscribe]

theorem never_connected_budget :
    ConsecutiveBudget (exposingClient "8080") 0 neverConnected ∧
      ∃ s, run (exposingClient "8080") 0 neverConnected = some s ∧ s.stage = .returned (.error gaveUp) := by
  have hrun : (run (exposingClient "8080") 0 neverConnected).map (fun s => (s.stage, s.outcomes)) =
      some (.returned (.error gaveUp), List.replicate 10 .failed) := by decide +kernel
  obtain ⟨s, hs, he⟩ := Option.map_eq_some_iff.mp hrun
  obtain ⟨hstage, hout⟩ := Prod.mk.inj he
  exact ⟨(consecutive_budget_iff hs).mpr (by rw [hout]; decide), s, hs, hstage⟩

def servedAndLost : List Event :=
  [.check, .resubscribe, .connect, .connected (.ok ()), .handshake (.ok ()), .inbound, .lose none, .retry, .slept]

def sessionLost : List Event :=
  servedAndLost ++ failedAttempts 8 ++ failedAttempt ++ [Event.check, Event.resubscribe]

theorem lost_session_spends_budget :
    ∃ s, run (exposingClient "8080") 0 sessionLost = some s ∧ s.stage = .returned (.error gaveUp) ∧
      s.outcomes = .lost :: List.replicate 9 .failed ∧
      ¬ ConsecutiveBudget (exposingClient "8080") 0 sessionLost := by
  have hrun : (run (exposingClient "8080") 0 sessionLost).map (fun s => (s.stage, s.outcomes)) =
      some (.returned (.error gaveUp), .lost :: List.replicate 9 .failed) := by decide +kernel
  obtain ⟨s, hs, he⟩ := Option.map_eq_some_iff.mp hrun
  obtain ⟨hstage, hout⟩ := Prod.mk.inj he
  refine ⟨s, hs, hstage, hout, ?_⟩
  intro hb
  obtain ⟨before, hbefore⟩ := hb.gaveUp sessionLost [] s (by simp) hs gaveUp hstage
  have hlen : before = [] := by
    have hlength := congrArg List.length hbefore
    rw [hout] at hlength
    simpa [maxRetries] using hlength
  rw [hout, hlen] at hbefore
  exact absurd hbefore (by decide)

end GscFq.ClientLoop
