import GscFq.RoutingRuns

namespace GscFq.Routing

open HandleClient GscFq.Lists Tunnel

variable {configs : List ReverseProxyConfig}

def Waiting (s : State) (c : ConnId) : Prop :=
  (∃ x ∈ s.listeners, x.held = some (.tcp c)) ∨ (∃ r ∈ s.queue, r.body = .tcp c) ∨
    ∃ r, s.current = some r ∧ r.body = .tcp c

def Ended (s : State) : Prop := s.channelOpen = false ∧ ∀ x ∈ s.listeners, x.live = false

def backlog (s : State) : ℕ :=
  3 * s.listeners.countP (·.held.isSome) + 2 * s.queue.length + s.current.toList.length

theorem held_decreases {s : State} {l : ℕ} {x y : Listener} (hx : s.listeners[l]? = some x)
    (hheld : x.held.isSome = true) (hy : y.held = none) :
    (s.listeners.set l y).countP (·.held.isSome) + 1 = s.listeners.countP (·.held.isSome) := by
  have hset := countP_set_get (fun z : Listener => z.held.isSome) y hx
  simpa [hheld, hy] using hset

theorem Settled.progress {s : State} (hs : Settled configs s) (h : backlog s ≠ 0) :
    ∃ e s', step configs s e = some s' ∧ s'.accepted = s.accepted ∧ backlog s' < backlog s := by
  cases hcur : s.current with
  | some request =>
    exact ⟨.outbound none, { s with current := none, dropped := s.dropped ++ request.body.conns },
      by simp [step, hcur], rfl, by simp [backlog, hcur]⟩
  | none =>
    cases hq : s.queue with
    | cons request queue =>
      cases hloop : s.looping with
      | true =>
        exact ⟨.receive, { s with queue := queue, current := some request }, by simp [step, hq, hcur, hloop], rfl,
          by simp [backlog, hq, hcur]; omega⟩
      | false =>
        have hopen : s.channelOpen = true := by
          by_contra hne
          have hempty := (hs.closed (by simpa using hne)).2
          simp [hq] at hempty
        refine ⟨.closeChannel, { s with
          channelOpen := false
          queue := []
          dropped := s.dropped ++ s.queue.flatMap (·.body.conns) }, by simp [step, hloop, hopen], rfl, ?_⟩
        simp only [backlog, hq, hcur, List.length_cons, List.length_nil]
        omega
    | nil =>
      have hheld : 0 < s.listeners.countP (·.held.isSome) := by
        simp only [backlog, hcur, hq, List.length_nil, Option.toList_none] at h
        omega
      obtain ⟨x, hx, hsome⟩ := List.countP_pos_iff.mp hheld
      obtain ⟨l, hl⟩ := List.getElem?_of_mem hx
      obtain ⟨body, hbody⟩ := Option.isSome_iff_exists.mp hsome
      cases hopen : s.channelOpen with
      | true =>
        have hless := held_decreases (y := { x with held := none }) hl hsome rfl
        refine ⟨.send l, { s with
          listeners := s.listeners.set l { x with held := none }
          queue := s.queue ++ [⟨x.port, body⟩] }, ?_, rfl, ?_⟩
        · simp [step, hl, listenerStep, hbody, hopen, hq, channelCapacity]
        · simp only [backlog, hcur, hq, List.nil_append, List.length_singleton, List.length_nil]
          omega
      | false =>
        have hless := held_decreases (y := { x with held := none, live := false }) hl hsome rfl
        refine ⟨.send l, dropHeld s l x, by simp [step, hl, listenerStep, hbody, hopen], rfl, ?_⟩
        simp only [backlog, dropHeld, hcur, hq]
        omega

end GscFq.Routing
