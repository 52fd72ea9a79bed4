import GscFq.ForwardServerShutdown

namespace GscFq.ForwardServer

open Broadcast GscFq.Lists RuntimeTasks Transitions

theorem Turn.udp_kept {shutdown : Channel} {closed : Bool} {x x' : Instance} {e : InstanceEvent} {u : UdpTask}
    (hx : TaskOk shutdown x) (h : Turn shutdown closed x e x') (hu : x.udp = some u) :
    ∃ u', x'.udp = some u' ∧ (u'.running = true → u.running = true ∧ u'.receiver = u.receiver) := by
  cases h with
  | listens | listenFails | bindFails | accept | idle | stop => exact ⟨u, hu, fun hr => ⟨hr, rfl⟩⟩
  | binds bound =>
    rw [hx.unbound (Or.inr bound)] at hu
    cases hu
  | datagram udp running =>
    obtain rfl := Option.some.inj (hu.symm.trans udp)
    exact ⟨_, rfl, fun _ => ⟨running, rfl⟩⟩
  | stopUdp udp running => exact ⟨_, rfl, nofun⟩

theorem Turn.udp_new {shutdown : Channel} {closed : Bool} {x x' : Instance} {e : InstanceEvent}
    (h : Turn shutdown closed x e x') (hu : x.udp = none) : x'.udp = none ∨ e = .bindUdp none := by
  cases h with
  | listens | listenFails | bindFails | accept | idle | stop => exact Or.inl hu
  | binds => exact Or.inr rfl
  | datagram udp | stopUdp udp =>
    rw [hu] at udp
    cases udp

/-- An instance before and after a step: untouched, or with its own turn. -/
def Kept (s : State) (e : Event) (i : ℕ) (x x' : Instance) : Prop :=
  x' = x ∨ ∃ e', e = .proxy i e' ∧ Turn s.shutdown (s.phase = .dropped) x e' x'

theorem step_kept {server : ProxyServer} {s t : State} {e : Event} {i : ℕ} {x : Instance} (hs : Inv server s)
    (h : step s e = some t) (hx : s.tasks[i]? = some x) : ∃ x', t.tasks[i]? = some x' ∧ Kept s e i x x' := by
  cases e with
  | proxy j e =>
    obtain ⟨y, hy, h⟩ := Option.bind_eq_some_iff.mp h
    obtain ⟨y', hstep, rfl⟩ := Option.map_eq_some_iff.mp h
    by_cases hji : j = i
    · subst hji
      obtain rfl := Option.some.inj (hx.symm.trans hy)
      exact ⟨y', by simp [(List.getElem?_eq_some_iff.mp hx).1], Or.inr ⟨e, rfl, Instance.step_turn hstep⟩⟩
    · exact ⟨x, by simp [hji, hx], Or.inl rfl⟩
  | spawn =>
    simp only [step] at h
    split at h
    · rename_i hp
      rw [(hs.unspawned hp).2] at hx
      cases hx
    · cases h
  | signal | join | drop =>
    simp only [step] at h
    split at h
    · cases h
      exact ⟨x, hx, Or.inl rfl⟩
    · cases h

theorem step_old {s t : State} {e : Event} {i : ℕ} {x' : Instance} (h : step s e = some t)
    (hx : t.tasks[i]? = some x') : x'.udp = none ∨ ∃ x, s.tasks[i]? = some x ∧ Kept s e i x x' := by
  cases e with
  | proxy j e =>
    obtain ⟨y, hy, h⟩ := Option.bind_eq_some_iff.mp h
    obtain ⟨y', hstep, rfl⟩ := Option.map_eq_some_iff.mp h
    rcases getElem?_set_some hx with ⟨rfl, rfl⟩ | ⟨-, hold⟩
    · exact Or.inr ⟨y, hy, Or.inr ⟨e, rfl, Instance.step_turn hstep⟩⟩
    · exact Or.inr ⟨x', hold, Or.inl rfl⟩
  | spawn =>
    simp only [step] at h
    split at h
    · cases h
      obtain ⟨slot, -, rfl⟩ := List.mem_map.mp (List.mem_of_getElem? hx)
      exact Or.inl rfl
    · cases h
  | signal | join | drop =>
    simp only [step] at h
    split at h
    · cases h
      exact Or.inr ⟨x', hx, Or.inl rfl⟩
    · cases h

/-- Each datagram loop goes back to the one binding of its socket, at which it subscribed. -/
structure Subscribed (server : ProxyServer) (es : List Event) (s : State) : Prop where
  once : ∀ i v, Occurs step (init server) es v (.proxy i (.bindUdp none)) → ∃ x u, s.tasks[i]? = some x ∧
    x.udp = some u ∧ (u.running = true → u.receiver.next = v.shutdown.tail)
  bound : ∀ i x u, s.tasks[i]? = some x → x.udp = some u →
    ∃ v, Occurs step (init server) es v (.proxy i (.bindUdp none))

theorem Subscribed.step {server : ProxyServer} {es : List Event} {s t : State} {e : Event}
    (hr : run server es = some s) (hsub : Subscribed server es s) (h : ForwardServer.step s e = some t) :
    Subscribed server (es ++ [e]) t := by
  have hs := run_inv hr
  constructor
  · intro i v hocc
    rcases occurs_snoc hocc with hold | ⟨hv, rfl⟩
    · obtain ⟨x, u, hx, hu, hnext⟩ := hsub.once i v hold
      obtain ⟨x', hx', rfl | ⟨e', -, hturn⟩⟩ := step_kept hs h hx
      · exact ⟨x', u, hx', hu, hnext⟩
      · obtain ⟨u', hu', hsame⟩ := hturn.udp_kept (hs.ok x (List.mem_of_getElem? hx)) hu
        refine ⟨x', u', hx', hu', fun hrun => ?_⟩
        rw [(hsame hrun).2]
        exact hnext (hsame hrun).1
    · cases hr.symm.trans hv
      obtain ⟨x, hx, h⟩ := Option.bind_eq_some_iff.mp h
      obtain ⟨x', hstep, rfl⟩ := Option.map_eq_some_iff.mp h
      have hi := (List.getElem?_eq_some_iff.mp hx).1
      cases Instance.step_turn hstep with
      | binds bound => exact ⟨_, _, by simp [hi]; rfl, rfl, fun _ => rfl⟩
      | idle retried => rcases retried with hr' | hr' <;> cases hr'
  · intro i x' u hx' hu
    rcases step_old h hx' with hnone | ⟨x, hx, hkept⟩
    · rw [hnone] at hu
      cases hu
    · cases hold : x.udp with
      | some w =>
        obtain ⟨v, hv⟩ := hsub.bound i x w hx hold
        exact ⟨v, hv.append [e]⟩
      | none =>
        rcases hkept with rfl | ⟨e', rfl, hturn⟩
        · rw [hold] at hu
          cases hu
        · rcases hturn.udp_new hold with hnone | rfl
          · rw [hnone] at hu
            cases hu
          · exact ⟨s, occurs_last _ hr⟩

theorem run_subscribed {server : ProxyServer} {es : List Event} {s : State} (h : run server es = some s) :
    Subscribed server es s := by
  apply run_history (I := fun es s => Subscribed server es s) h
  · exact ⟨fun i v hocc => absurd hocc not_occurs_nil, by simp [init]⟩
  · exact fun es u e t hr hu he => hu.step hr he

theorem bind_phase {server : ProxyServer} {es : List Event} {s v : State} {i : ℕ} (h : run server es = some s)
    (hv : Occurs step (init server) es v (.proxy i (.bindUdp none))) :
    v.phase = .stopping ↔ v.shutdown.tail = 1 := by
  obtain ⟨before, after, hes, hbefore⟩ := hv
  have hinv : Inv server v := run_inv hbefore
  obtain ⟨t, ht⟩ := Occurs.enabled ⟨before, after, hes, hbefore⟩ h
  obtain ⟨x, hx, ht⟩ := Option.bind_eq_some_iff.mp ht
  obtain ⟨x', hstep, -⟩ := Option.map_eq_some_iff.mp ht
  have hbound : x.stage = .bound := by
    cases Instance.step_turn hstep with
    | binds bound => exact bound
    | idle retried => rcases retried with hr | hr <;> cases hr
  have hearly : ¬ (v.phase = .returned ∨ v.phase = .dropped) := by
    intro hp
    have hend := hinv.ended hp x (List.mem_of_getElem? hx)
    simp [Instance.ended, hbound] at hend
  rw [hinv.tail]
  cases hp : v.phase with
  | starting | waiting | stopping => simp
  | returned => exact absurd (Or.inl hp) hearly
  | dropped => exact absurd (Or.inr hp) hearly

/-- After the signal a datagram loop takes up the message unless its socket was bound after the signal; such a loop
goes on until the server is dropped. -/
theorem late_datagram_loops {server : ProxyServer} {es : List Event} {s : State} {i : ℕ} {x : Instance} {u : UdpTask}
    (h : run server es = some s) (ha : s.After) (hx : s.tasks[i]? = some x) (hu : x.udp = some u)
    (hrun : u.running = true) : step s (.proxy i .stopUdp) = none ↔ s.phase ≠ .dropped ∧
      ∃ v, Occurs step (init server) es v (.proxy i (.bindUdp none)) ∧ v.phase = .stopping := by
  have hsub := run_subscribed h
  have hsent := (run_inv h).sent ha
  have hready : ready s.shutdown (decide (s.phase = .dropped)) u.receiver = true ↔
      u.receiver.next < 1 ∨ s.phase = .dropped := by
    rw [ready, Channel.pending, hsent, Bool.or_eq_true, decide_eq_true_eq, decide_eq_true_eq]
  have hnone : step s (.proxy i .stopUdp) = none ↔ ¬ ready s.shutdown (decide (s.phase = .dropped)) u.receiver = true := by
    by_cases hc : ready s.shutdown (decide (s.phase = .dropped)) u.receiver = true <;>
      simp [step, hx, Instance.step, hu, UdpTask.step, hrun, hc]
  rw [hnone, hready, not_or, and_comm]
  apply and_congr_right'
  have hnext : ∀ v, Occurs step (init server) es v (.proxy i (.bindUdp none)) →
      u.receiver.next = v.shutdown.tail := by
    intro v hv
    obtain ⟨y, w, hy, hw, hnext⟩ := hsub.once i v hv
    obtain rfl := Option.some.inj (hx.symm.trans hy)
    obtain rfl := Option.some.inj (hu.symm.trans hw)
    exact hnext hrun
  constructor
  · intro hlate
    obtain ⟨v, hv⟩ := hsub.bound i x u hx hu
    have hle := ((run_inv h).ok x (List.mem_of_getElem? hx)).listening u hu
    exact ⟨v, hv, (bind_phase h hv).mpr (by rw [← hnext v hv]; omega)⟩
  · rintro ⟨v, hv, hp⟩
    rw [hnext v hv, (bind_phase h hv).mp hp]
    omega

theorem sample_late_loop : ∃ s, run sampleServer sampleReturn = some s ∧ s.phase = .returned ∧
    step s (.proxy 0 .stopUdp) = none := by
  obtain ⟨s, x, u, hs, hp, hx, hu, hrun⟩ : ∃ s x u, run sampleServer sampleReturn = some s ∧ s.phase = .returned ∧
      s.tasks[0]? = some x ∧ x.udp = some u ∧ u.running = true := ⟨_, _, _, rfl, rfl, rfl, rfl, rfl⟩
  refine ⟨s, hs, hp, (late_datagram_loops hs (Or.inr (Or.inl hp)) hx hu hrun).mpr ⟨by rw [hp]; decide, ?_⟩⟩
  obtain ⟨v, hv, hq⟩ : ∃ v, run sampleServer sampleSignal = some v ∧ v.phase = .stopping := ⟨_, rfl, rfl⟩
  exact ⟨v, ⟨sampleSignal, [.proxy 0 .stop, .join], rfl, hv⟩, hq⟩

end GscFq.ForwardServer
