import GscFq.LateListeners

namespace GscFq.ForwardServer

open Broadcast GscFq.Lists RuntimeTasks

/-! The server as the wait of `RuntimeManager::run` sees it: no channel, no datagram loops. -/

def Stage.coarse : Stage → InstanceStage
  | .starting => .starting
  | .bound => .listening
  | .serving => .serving
  | .returned result => .returned result

def Instance.coarse (x : Instance) : RuntimeTasks.Instance := ⟨x.proxy, x.stage.coarse⟩

def Phase.coarse : Phase → ForwardStage
  | .starting => .starting
  | .waiting => .waiting
  | .stopping => .stopping
  | .returned => .returned
  | .dropped => .returned

def State.coarse (server : ProxyServer) (s : State) : Forward :=
  ⟨if s.phase = .starting then server.proxyInstances.map (⟨·, .starting⟩) else s.tasks.map Instance.coarse,
    s.phase.coarse⟩

theorem start_coarse (server : ProxyServer) :
    RuntimeTasks.Task.start (.forward server) = .forward ((init server).coarse server) := rfl

theorem coarse_ended (x : Instance) : x.coarse.ended = x.ended := by
  cases hst : x.stage <;> simp [Instance.coarse, RuntimeTasks.Instance.ended, Instance.ended, Stage.coarse, hst]

theorem Phase.coarse_starting {p : Phase} (h : p ≠ .starting) : p.coarse ≠ .starting := by
  cases p <;> simp [Phase.coarse] at h ⊢

theorem coarse_proxy {server : ProxyServer} {s : State} {i : ℕ} {x x' : Instance} {e : RuntimeTasks.InstanceEvent}
    (hp : s.phase ≠ .starting) (hx : s.tasks[i]? = some x)
    (h : instanceStep (s.phase.coarse == .stopping) x.coarse e = some x'.coarse) :
    forwardStep (s.coarse server) (.proxy i e) = some ({ s with tasks := s.tasks.set i x' }.coarse server) := by
  have hget : (s.tasks.map Instance.coarse)[i]? = some x.coarse := by rw [List.getElem?_map, hx]; rfl
  simp only [forwardStep, State.coarse, if_neg hp, if_neg (Phase.coarse_starting hp), hget, Option.bind_some, h,
    Option.map_some, List.map_set]

theorem coarse_same {server : ProxyServer} {s : State} {i : ℕ} {x x' : Instance} (hx : s.tasks[i]? = some x)
    (h : x'.coarse = x.coarse) : { s with tasks := s.tasks.set i x' }.coarse server = s.coarse server := by
  simp only [State.coarse, map_set_same Instance.coarse hx h]

/-- A step is one of the coarse server or none. -/
theorem step_refines {server : ProxyServer} {s t : State} {e : Event} (hs : Inv server s) (h : step s e = some t) :
    t.coarse server = s.coarse server ∨ ∃ e', forwardStep (s.coarse server) e' = some (t.coarse server) := by
  cases e with
  | spawn =>
    simp only [step] at h
    split at h
    · rename_i hp
      cases h
      refine Or.inr ⟨.spawn, ?_⟩
      have hslots : s.proxyInstances.map (fun slot => (slot.spawned s.shutdown).coarse) =
          server.proxyInstances.map (⟨·, .starting⟩) := by
        rw [← (hs.unspawned hp).1, List.map_map]
        rfl
      simp [forwardStep, State.coarse, hp, Phase.coarse, Function.comp_def, hslots]
    · cases h
  | proxy i e =>
    obtain ⟨x, hx, h⟩ := Option.bind_eq_some_iff.mp h
    obtain ⟨x', hstep, rfl⟩ := Option.map_eq_some_iff.mp h
    have hp : s.phase ≠ .starting := by
      intro hp
      rw [(hs.unspawned hp).2] at hx
      cases hx
    cases Instance.step_turn hstep with
    | listens starting =>
      exact Or.inr ⟨_, coarse_proxy (e := .listen none) hp hx
        (by simp [instanceStep, Instance.coarse, Stage.coarse, starting])⟩
    | @listenFails call e starting =>
      exact Or.inr ⟨_, coarse_proxy (e := .listen (some (call, e))) hp hx
        (by simp [instanceStep, Instance.coarse, Stage.coarse, starting])⟩
    | binds bound =>
      exact Or.inr ⟨_, coarse_proxy (e := .bindUdp none) hp hx
        (by simp [instanceStep, Instance.coarse, Stage.coarse, bound])⟩
    | @bindFails e reason bound =>
      simp only [Instance.step, bound, Option.some.injEq] at hstep
      rw [← hstep]
      exact Or.inr ⟨_, coarse_proxy (e := .bindUdp (some e)) hp hx
        (by simp [instanceStep, Instance.coarse, Stage.coarse, bound])⟩
    | accept | idle | datagram | stopUdp => exact Or.inl (coarse_same hx rfl)
    | stop serving fired =>
      have hphase : s.phase = .stopping := by
        have hsent := fired_sent (fun hd => by rw [hs.tail, of_decide_eq_true hd]; decide) fired
        have htail := hs.tail
        have hend := hs.ended
        cases hq : s.phase with
        | starting | waiting =>
          rw [hq] at htail
          rw [htail] at hsent
          cases hsent
        | stopping => rfl
        | returned =>
          have hx' := hend (Or.inl hq) x (List.mem_of_getElem? hx)
          simp [Instance.ended, serving] at hx'
        | dropped =>
          have hx' := hend (Or.inr hq) x (List.mem_of_getElem? hx)
          simp [Instance.ended, serving] at hx'
      exact Or.inr ⟨_, coarse_proxy (e := .stop) hp hx
        (by simp [instanceStep, Instance.coarse, Stage.coarse, serving, hphase, Phase.coarse])⟩
  | signal =>
    simp only [step] at h
    split at h
    · rename_i hp
      cases h
      exact Or.inr ⟨.signal, by simp [forwardStep, State.coarse, hp, Phase.coarse]⟩
    · cases h
  | join =>
    simp only [step] at h
    split at h
    · rename_i hc
      cases h
      refine Or.inr ⟨.join, ?_⟩
      have hall : (s.tasks.map Instance.coarse).all RuntimeTasks.Instance.ended = true := by
        rw [List.all_map, ← hc.2]
        congr 1
        funext x
        exact coarse_ended x
      simp [forwardStep, State.coarse, hc.1, Phase.coarse, hall]
    · cases h
  | drop =>
    simp only [step] at h
    split at h
    · rename_i hp
      cases h
      exact Or.inl (by simp [State.coarse, hp, Phase.coarse])
    · cases h

/-- Every run of the server is one of the forward task that `RuntimeManager::run` waits for. -/
theorem forward_server_refines {server : ProxyServer} {es : List Event} {s : State} (h : run server es = some s) :
    ∃ fs, Transitions.run forwardStep ((init server).coarse server) fs = some (s.coarse server) := by
  have hinv : Inv server s ∧ ∃ fs, Transitions.run forwardStep ((init server).coarse server) fs = some (s.coarse server) := by
    apply Transitions.run_invariant (I := fun s => Inv server s ∧
      ∃ fs, Transitions.run forwardStep ((init server).coarse server) fs = some (s.coarse server)) h
    · exact ⟨init_inv server, [], rfl⟩
    · rintro u e t ⟨hu, fs, hfs⟩ he
      refine ⟨hu.step he, ?_⟩
      rcases step_refines hu he with hsame | ⟨e', he'⟩
      · exact ⟨fs, by rw [hfs, hsame]⟩
      · exact ⟨fs ++ [e'], Transitions.run_snoc.mpr ⟨_, hfs, he'⟩⟩
  exact hinv.2

theorem sample_refines : ∃ s, run sampleServer sampleReturn = some s ∧ s.phase = .returned ∧
    ∃ fs, Transitions.run forwardStep ((init sampleServer).coarse sampleServer) fs = some (s.coarse sampleServer) := by
  obtain ⟨s, hs, hp⟩ : ∃ s, run sampleServer sampleReturn = some s ∧ s.phase = .returned := ⟨_, rfl, rfl⟩
  exact ⟨s, hs, hp, forward_server_refines hs⟩

end GscFq.ForwardServer
