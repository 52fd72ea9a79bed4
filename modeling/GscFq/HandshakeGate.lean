import GscFq.GateInvariant

namespace GscFq.Sessions

open ByteStream HandleClient

variable {X : Externals} {srv : ReverseProxyServer}

theorem Passes.step {s s' : State} {e : Event} {t : TaskId} {task : Task} (hs : AllGated X srv s)
    (ht : s.tasks[t]? = some task) (hp : Passes X srv task) (h : step X srv s e = some s') :
    ∃ task', s'.tasks[t]? = some task' ∧ Passes X srv task' := by
  have hne : task.stage ≠ .hello := by
    intro hstage
    rcases hs t task ht with hw | hr | ⟨-, hne⟩
    · obtain ⟨now, hello, hat, -⟩ := hp
      rw [hw.checkedAt] at hat
      cases hat
    · obtain ⟨e, he⟩ := hr.stage
      simp [hstage] at he
    · exact hne hstage
  obtain ⟨task', ht', rfl | ⟨new, eff, spawned, hm, rfl, -⟩⟩ := step_follows h ht
  · exact ⟨task', ht', hp⟩
  · exact ⟨_, ht', (hp.move hne hm).1.grow (.refl _) rfl⟩

def Inert (X : Externals) (srv : ReverseProxyServer) (s : State) (t : TaskId) (e : HandleClient.Event) : Prop :=
  ∃ s', step X srv s (.task t e) = some s' ∧ s'.clients = s.clients ∧ s'.listeners = s.listeners

theorem step_inert {s s' : State} {t : TaskId} {e : HandleClient.Event} (hs : AllGated X srv s)
    (h : step X srv s (.task t e) = some s')
    (hno : ∀ task, s'.tasks[t]? = some task → ¬ Passes X srv task) : Inert X srv s t e := by
  obtain ⟨task, task', eff, ht, hm, rfl⟩ := step_task h
  rcases hs t task ht with hw | hr | ⟨hp, -⟩
  · obtain ⟨rfl, -⟩ := hw.move hm
    exact ⟨_, h, rfl, rfl⟩
  · exact absurd hm hr.stuck
  · obtain ⟨b, hb, hpb⟩ := hp.step hs ht h
    exact absurd hpb (hno b hb)

theorem run_inert {es : List Event} {s : State} {t : TaskId} (h : run X srv es = some s)
    (hno : ∀ task, s.tasks[t]? = some task → ¬ Passes X srv task) (u : State) (e : HandleClient.Event)
    (hocc : Transitions.Occurs (step X srv) init es u (.task t e)) : Inert X srv u t e := by
  induction es using List.reverseRecOn generalizing s with
  | nil =>
    obtain ⟨before, after, hes, -⟩ := hocc
    simp at hes
  | append_singleton es f ih =>
    obtain ⟨v, hv, hf⟩ := Transitions.run_snoc.mp h
    have hgated := run_gated hv
    have hno' : ∀ task, v.tasks[t]? = some task → ¬ Passes X srv task := by
      intro task ht hp
      obtain ⟨task', ht', hp'⟩ := hp.step hgated ht hf
      exact hno task' ht' hp'
    rcases Transitions.occurs_snoc hocc with hearlier | ⟨hu, hef⟩
    · exact ih hv hno' hearlier
    · have huv : v = u := Option.some.inj (hv.symm.trans hu)
      subst huv hef
      exact step_inert hgated hf hno

theorem opened_passes {es : List Event} {s : State} {t : TaskId} {task : Task} (h : run X srv es = some s)
    (ht : s.tasks[t]? = some task) (ho : Opened s t task) : Passes X srv task := by
  have hclosed : Closed task → task.stage.phase ≠ .binding → task.stage.phase ≠ .registered →
      (∀ r ∈ task.sent, r.status ≠ .ok) → False := by
    intro hc hb hreg hsent
    rcases ho with ⟨r, hr, hok⟩ | hp | hp | hp | hp | ⟨id, session, hlook, howner⟩
    · exact hsent r hr hok
    · exact hb hp
    · exact hreg hp
    · exact hp hc.spawned
    · exact hp hc.registeredAt
    · obtain ⟨task', ht', -, hphase, -⟩ := (run_owned h).entry id session hlook
      rw [howner, ht] at ht'
      cases ht'
      exact hreg hphase
  rcases run_gated h t task ht with hw | hr | ⟨hp, -⟩
  · refine (hclosed hw.toClosed ?_ ?_ ?_).elim <;> simp [hw.stage, hw.sent, Stage.phase]
  · obtain ⟨e, he⟩ := hr.stage
    refine (hclosed hr.toClosed ?_ ?_ ?_).elim
    · simp [he, Stage.phase]
    · simp [he, Stage.phase]
    · rcases hr.sent with hnil | ⟨r, hone, hok, -⟩
      · simp [hnil]
      · simpa [hone] using hok
  · exact hp

structure TurnedAway (X : Externals) (srv : ReverseProxyServer) (task : Task) : Prop where
  one_reply : task.sent.length ≤ 1
  status : ∀ r ∈ task.sent, NamesFailure X srv task r
  stage : task.stage = .hello ∨ ∃ e, task.stage = .returned (.error e)

theorem turnedAway {task : Task} (hg : Gated X srv task) (hno : ¬ Passes X srv task) :
    TurnedAway X srv task := by
  rcases hg with hw | hr | ⟨hp, -⟩
  · exact ⟨by simp [hw.sent], by simp [hw.sent], Or.inl hw.stage⟩
  · refine ⟨?_, ?_, Or.inr hr.stage⟩
    · rcases hr.sent with hnil | ⟨r, hone, -⟩ <;> simp [*]
    · rcases hr.sent with hnil | ⟨r, hone, -, hn⟩
      · simp [hnil]
      · simpa [hone] using hn
  · exact absurd hp hno

theorem hello_enabled {s : State} {t : TaskId} {task : Task} (hs : AllGated X srv s)
    (ht : s.tasks[t]? = some task) (hstage : task.stage = .hello)
    (hready : task.control.ending ≠ none ∨ ControlMessage.readFrom X task.control ≠ .pending)
    (now stamp : UInt64) (broken : Option IoError) :
    ∃ s' task', step X srv s (.task t (.hello now stamp broken)) = some s' ∧ s'.tasks[t]? = some task' ∧
      (Passes X srv task' ∨ ∃ e, task'.stage = .returned (.error e)) := by
  have hread : ControlMessage.readFrom X task.control ≠ .pending :=
    hready.elim (fun he hp => he (ControlMessage.readFrom_pending hp)) id
  have hr : ∃ r, srv.handshake X now stamp task.addr broken task.control = some r := by
    unfold ReverseProxyServer.handshake
    cases hm : ControlMessage.readFrom X task.control with
    | pending => exact absurd hm hread
    | err e => exact ⟨_, rfl⟩
    | ok m rest => cases m <;> exact ⟨_, rfl⟩
  obtain ⟨r, hr⟩ := hr
  have hstep : step X srv s (.task t (.hello now stamp broken)) = some (s.setTask t (afterHello task now r)) := by
    simp [Sessions.step, HandleClient.step, ht, hstage, hr, State.apply]
  refine ⟨_, afterHello task now r, hstep, get_set_self _ ht, ?_⟩
  have hw : Waiting task := by
    rcases hs t task ht with hw | hr | ⟨-, hne⟩
    · exact hw
    · obtain ⟨e, he⟩ := hr.stage
      simp [hstage] at he
    · exact absurd hstage hne
  exact (afterHello_gated hw hr).elim (fun h => Or.inr h.stage) (fun h => Or.inl h.1)

theorem handshake_gate {es : List Event} {s : State} {t : TaskId} {task : Task} (h : run X srv es = some s)
    (ht : s.tasks[t]? = some task) :
    (Opened s t task → Passes X srv task) ∧
    (¬ Passes X srv task → TurnedAway X srv task ∧
      (∀ u e, Transitions.Occurs (step X srv) init es u (.task t e) → Inert X srv u t e) ∧
      (task.stage = .hello →
        task.control.ending ≠ none ∨ ControlMessage.readFrom X task.control ≠ .pending →
          ∀ now stamp broken, ∃ s' task', step X srv s (.task t (.hello now stamp broken)) = some s' ∧
            s'.tasks[t]? = some task' ∧ (Passes X srv task' ∨ ∃ e, task'.stage = .returned (.error e)))) := by
  refine ⟨opened_passes h ht, fun hno => ⟨turnedAway (run_gated h t task ht) hno, ?_, ?_⟩⟩
  · apply run_inert h
    intro task' ht'
    rw [ht] at ht'
    cases ht'
    exact hno
  · intro hstage hready now stamp broken
    exact hello_enabled (run_gated h) ht hstage hready now stamp broken

theorem sample_handshake_gate :
    ∃ s task, run Bincode.sample sampleOpenServer sampleSession = some s ∧ s.tasks[0]? = some task ∧
      task.registeredAt = some 0 ∧ Passes Bincode.sample sampleOpenServer task := by
  have hrun : ((run Bincode.sample sampleOpenServer sampleSession).bind (·.tasks[0]?)).map (·.registeredAt) =
      some (some 0) := by decide +kernel
  obtain ⟨task, htask, hreg⟩ := Option.map_eq_some_iff.mp hrun
  obtain ⟨s, hs, ht⟩ := Option.bind_eq_some_iff.mp htask
  have hopened : Opened s 0 task := Or.inr (Or.inr (Or.inr (Or.inr (Or.inl (by simp [hreg])))))
  exact ⟨s, task, hs, ht, hreg, (handshake_gate hs ht).1 hopened⟩

end GscFq.Sessions
