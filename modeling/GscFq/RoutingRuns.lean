import GscFq.ConnectionPlaces

namespace GscFq.Routing

open HandleClient Tunnel

variable {configs : List ReverseProxyConfig}

/-- Nothing waits at the end: a loop that is left works on nothing, a closed channel is empty and a
dead listener holds nothing. Listeners and connections are on ports of the list. -/
structure Settled (configs : List ReverseProxyConfig) (s : State) : Prop where
  left : s.looping = false → s.current = none
  closed : s.channelOpen = false → s.looping = false ∧ s.queue = []
  dead : ∀ x ∈ s.listeners, x.live = false → x.held = none
  listening : ∀ x ∈ s.listeners, ∃ c ∈ configs, c.serverPort = x.port
  accepted : ∀ port ∈ s.accepted, ∃ c ∈ configs, c.serverPort = port
  streams : ∀ t ∈ s.streams, StreamOk configs t

theorem Settled.setListener {s : State} (hs : Settled configs s) {l : ℕ} {x y : Listener}
    (hx : s.listeners[l]? = some x) (hp : y.port = x.port) (hd : y.live = false → y.held = none) :
    (∀ z ∈ s.listeners.set l y, z.live = false → z.held = none) ∧
      ∀ z ∈ s.listeners.set l y, ∃ c ∈ configs, c.serverPort = z.port := by
  constructor
  · intro z hz
    rcases List.mem_or_eq_of_mem_set hz with hz | rfl
    · exact hs.dead z hz
    · exact hd
  · intro z hz
    rcases List.mem_or_eq_of_mem_set hz with hz | rfl
    · exact hs.listening z hz
    · rw [hp]
      exact hs.listening x (List.mem_of_getElem? hx)

theorem Settled.move {s s' : State} (hs : Settled configs s) (hm : Move configs s s') : Settled configs s' := by
  cases hm with
  | @accept l x hx hlive hfree =>
    have hset := hs.setListener (y := { x with held := some (.tcp s.accepted.length) }) hx rfl
      (fun h => by simp [hlive] at h)
    refine ⟨hs.left, hs.closed, hset.1, hset.2, ?_, hs.streams⟩
    intro port hp
    rcases List.mem_append.mp hp with hp | hp
    · exact hs.accepted port hp
    · rw [List.mem_singleton.mp hp]
      exact hs.listening x (List.mem_of_getElem? hx)
  | @datagram l x data peer hx hlive hfree =>
    have hset := hs.setListener (y := { x with held := some (.udp data peer) }) hx rfl
      (fun h => by simp [hlive] at h)
    exact ⟨hs.left, hs.closed, hset.1, hset.2, hs.accepted, hs.streams⟩
  | @enqueue l x body hx hheld hopen =>
    have hset := hs.setListener (y := { x with held := none }) hx rfl (fun _ => rfl)
    exact ⟨hs.left, fun h => absurd h (by simp [hopen]), hset.1, hset.2, hs.accepted, hs.streams⟩
  | @drop l x hx =>
    have hset := hs.setListener (y := { x with held := none, live := false }) hx rfl (fun _ => rfl)
    exact ⟨hs.left, hs.closed, hset.1, hset.2, hs.accepted, hs.streams⟩
  | @receive request queue hq hidle hloop =>
    refine ⟨fun h => absurd h (by simp [hloop]), fun h => ?_, hs.dead, hs.listening, hs.accepted, hs.streams⟩
    have hempty := (hs.closed h).2
    simp [hq] at hempty
  | @opened request net hcur =>
    refine ⟨fun _ => rfl, hs.closed, hs.dead, hs.listening, hs.accepted, ?_⟩
    intro t ht
    rcases List.mem_append.mp ht with ht | ht
    · exact hs.streams t ht
    · obtain rfl := List.mem_singleton.mp ht
      exact ⟨fun o ho => absurd ho (by simp), rfl⟩
  | @refused request hcur => exact ⟨fun _ => rfl, hs.closed, hs.dead, hs.listening, hs.accepted, hs.streams⟩
  | @failHeader k n t ht hst hn =>
    refine ⟨hs.left, hs.closed, hs.dead, hs.listening, hs.accepted, ?_⟩
    intro u hu
    rcases List.mem_or_eq_of_mem_set hu with hu | rfl
    · exact hs.streams u hu
    · obtain ⟨hact, hsent⟩ := hs.streams t (List.mem_of_getElem? ht)
      simp only [Sent, hst] at hsent
      exact ⟨hact, n, hn, by simp [(List.append_eq_nil_iff.mp hsent).1]⟩
  | @stream k t t' ht hreq hfail hok =>
    refine ⟨hs.left, hs.closed, hs.dead, hs.listening, hs.accepted, ?_⟩
    intro u hu
    rcases List.mem_or_eq_of_mem_set hu with hu | rfl
    · exact hs.streams u hu
    · exact hok (hs.streams t (List.mem_of_getElem? ht))
  | leaveLoop hidle =>
    refine ⟨fun _ => hidle, fun h => ⟨rfl, (hs.closed h).2⟩, hs.dead, hs.listening, hs.accepted, hs.streams⟩
  | closeChannel hleft => exact ⟨hs.left, fun _ => ⟨hleft, rfl⟩, hs.dead, hs.listening, hs.accepted, hs.streams⟩

theorem openListeners_free (proxies : List ReverseProxyConfig) (bound : List (Bool × Bool)) :
    ∀ x ∈ openListeners proxies bound, x.held = none ∧ ∃ c ∈ proxies, c.serverPort = x.port := by
  induction proxies generalizing bound with
  | nil => simp [openListeners]
  | cons c proxies ih =>
    cases bound with
    | nil => simp [openListeners]
    | cons b bound =>
      intro x hx
      rw [openListeners, List.mem_append] at hx
      rcases hx with hx | hx
      · have hself : x.held = none ∧ x.port = c.serverPort := by
          obtain ⟨tcp, udp⟩ := b
          cases tcp <;> cases udp <;> simp at hx
          · exact ⟨by rw [hx], by rw [hx]⟩
          · rcases hx with rfl | rfl <;> exact ⟨rfl, rfl⟩
        exact ⟨hself.1, c, List.mem_cons_self, hself.2.symm⟩
      · obtain ⟨hfree, d, hd, hp⟩ := ih bound x hx
        exact ⟨hfree, d, List.mem_cons_of_mem c hd, hp⟩

structure Inv (configs : List ReverseProxyConfig) (s : State) : Prop where
  placed : Placed s
  ported : Ported s
  settled : Settled configs s

theorem init_inv (proxies : List ReverseProxyConfig) (bound : List (Bool × Bool)) :
    Inv proxies (init proxies bound) := by
  have hfree := openListeners_free proxies bound
  refine ⟨?_, ⟨?_, by simp [init], by simp [init], by simp [init]⟩,
    ⟨fun _ => rfl, by simp [init], ?_, ?_, by simp [init], by simp [init]⟩⟩
  · intro c
    have hnone : (openListeners proxies bound).countP (holds c) = 0 := by
      rw [List.countP_eq_zero]
      intro x hx
      simp [holds, (hfree x hx).1]
    simp [places, init, hnone]
  · intro x hx c hc
    simp [(hfree x hx).1] at hc
  · exact fun x hx _ => (hfree x hx).1
  · exact fun x hx => (hfree x hx).2

theorem Inv.step {s s' : State} {e : Event} (hs : Inv configs s) (h : step configs s e = some s') : Inv configs s' :=
  ⟨hs.placed.move (step_move h), hs.ported.move (step_move h), hs.settled.move (step_move h)⟩

theorem run_inv {proxies : List ReverseProxyConfig} {bound : List (Bool × Bool)} {es : List Event} {s : State}
    (h : Transitions.run (step proxies) (init proxies bound) es = some s) : Inv proxies s :=
  Transitions.run_invariant h (init_inv proxies bound) (fun _ _ _ hs he => hs.step he)

end GscFq.Routing
