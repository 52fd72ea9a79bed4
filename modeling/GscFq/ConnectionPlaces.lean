import GscFq.Lists
import GscFq.RoutingInvariants

namespace GscFq.Routing

open ByteStream HandleClient GscFq.Lists Tunnel

variable {configs : List ReverseProxyConfig}

def holds (c : ConnId) (x : Listener) : Bool := decide (x.held = some (.tcp c))

def asks (c : ConnId) (r : TunnelRequest) : Bool := decide (r.body = .tcp c)

def carries (c : ConnId) (t : TunnelStream) : Bool := decide (t.request.body = .tcp c ∧ t.stage ≠ .failed)

def places (s : State) (c : ConnId) : ℕ :=
  s.listeners.countP (holds c) + s.queue.countP (asks c) + s.current.toList.countP (asks c) +
    s.streams.countP (carries c) + s.dropped.count c

def Placed (s : State) : Prop := ∀ c : ℕ, places s c = if c < s.accepted.length then 1 else 0

theorem conns_count (body : Body) (c : ConnId) : body.conns.count c = if body = .tcp c then 1 else 0 := by
  cases body with
  | tcp conn => simp [Body.conns, List.count_singleton]
  | udp data peer => simp [Body.conns]

theorem held_count (x : Listener) (c : ConnId) :
    ((x.held.map Body.conns).getD []).count c = if holds c x then 1 else 0 := by
  cases hh : x.held with
  | none => simp [holds, hh]
  | some body => simp [holds, hh, conns_count]

theorem queue_count (queue : List TunnelRequest) (c : ConnId) :
    (queue.flatMap (·.body.conns)).count c = queue.countP (asks c) := by
  induction queue with
  | nil => rfl
  | cons r queue ih =>
    rw [List.flatMap_cons, List.count_append, ih, List.countP_cons, conns_count, Nat.add_comm]
    simp [asks]

theorem Placed.move {s s' : State} (hs : Placed s) (hm : Move configs s s') : Placed s' := by
  intro c
  have hc := hs c
  cases hm with
  | @accept l x hx hlive hfree =>
    have hset := countP_set_get (holds c) { x with held := some (.tcp s.accepted.length) } hx
    have hold : holds c x = false := by simp [holds, hfree]
    have hnew : holds c { x with held := some (.tcp s.accepted.length) } = decide (s.accepted.length = c) := by
      simp [holds]
    simp only [hold, hnew, decide_eq_true_eq, Bool.false_eq_true, if_false] at hset
    simp only [places, List.length_append, List.length_singleton] at hc ⊢
    by_cases heq : s.accepted.length = c
    · subst heq
      simp only [lt_irrefl, if_false, if_true, Nat.lt_succ_self] at hc hset ⊢
      omega
    · have hlt : c < s.accepted.length + 1 ↔ c < s.accepted.length := by omega
      simp only [heq, if_false] at hset
      simp only [hlt]
      omega
  | @datagram l x data peer hx hlive hfree =>
    have hset := countP_set_get (holds c) { x with held := some (.udp data peer) } hx
    have hold : holds c x = false := by simp [holds, hfree]
    have hnew : holds c { x with held := some (.udp data peer) } = false := by simp [holds]
    simp only [hold, hnew, Bool.false_eq_true, if_false] at hset
    simp only [places] at hc ⊢
    omega
  | @enqueue l x body hx hheld hopen =>
    have hset := countP_set_get (holds c) { x with held := none } hx
    have hnew : holds c { x with held := none } = false := by simp [holds]
    have hask : holds c x = asks c ⟨x.port, body⟩ := by simp [holds, asks, hheld]
    simp only [hnew, Bool.false_eq_true, if_false] at hset
    simp only [places, List.countP_append, List.countP_singleton, ← hask] at hc ⊢
    omega
  | @drop l x hx =>
    have hset := countP_set_get (holds c) { x with held := none, live := false } hx
    have hnew : holds c { x with held := none, live := false } = false := by simp [holds]
    have hacc : (dropHeld s l x).accepted = s.accepted := rfl
    rw [hacc, ← hc]
    simp only [hnew, Bool.false_eq_true, if_false] at hset
    simp only [places, dropHeld, List.count_append, held_count]
    omega
  | @receive request queue hq hidle hloop =>
    simp only [places, hq, hidle, List.countP_cons, Option.toList_none, Option.toList_some, List.countP_nil] at hc ⊢
    omega
  | @opened request net hcur =>
    have hask : carries c ⟨request, .opened, [], ⟨⟨[], none⟩, net, none⟩⟩ = asks c request := by
      simp [carries, asks]
    simp only [places, hcur, List.countP_cons, List.countP_append, List.countP_nil, Option.toList_none,
      Option.toList_some, hask] at hc ⊢
    omega
  | @refused request hcur =>
    have hask : (if request.body = .tcp c then 1 else 0) = if asks c request then 1 else 0 := by simp [asks]
    simp only [places, hcur, List.countP_cons, List.countP_nil, List.count_append, conns_count, Option.toList_none,
      Option.toList_some, hask] at hc ⊢
    omega
  | @failHeader k n t ht hst hn =>
    have hset := countP_set_get (carries c)
      { t with stage := .failed, inFlight := (openFrame t.request).take n } ht
    have hnew : carries c { t with stage := .failed, inFlight := (openFrame t.request).take n } = false := by
      simp [carries]
    have hold : (if t.request.body = .tcp c then 1 else 0) = if carries c t then 1 else 0 := by simp [carries, hst]
    simp only [hnew, Bool.false_eq_true, if_false] at hset
    simp only [places, List.count_append, conns_count, hold] at hc ⊢
    omega
  | @stream k t t' ht hreq hfail hok =>
    have hset := countP_set_get (carries c) t' ht
    have hsame : carries c t' = carries c t := by simp [carries, hreq, hfail]
    rw [hsame] at hset
    simp only [places] at hc ⊢
    omega
  | leaveLoop hidle => exact hc
  | closeChannel hleft =>
    simp only [places, List.count_append, queue_count, List.countP_nil] at hc ⊢
    omega

structure Ported (s : State) : Prop where
  held : ∀ x ∈ s.listeners, ∀ c, x.held = some (.tcp c) → s.accepted[c]? = some x.port
  queued : ∀ r ∈ s.queue, ∀ c, r.body = .tcp c → s.accepted[c]? = some r.targetPort
  current : ∀ r, s.current = some r → ∀ c, r.body = .tcp c → s.accepted[c]? = some r.targetPort
  carried : ∀ t ∈ s.streams, ∀ c, t.request.body = .tcp c → s.accepted[c]? = some t.request.targetPort

theorem accepted_append {accepted : List UInt16} {port p : UInt16} {c : ConnId} (h : accepted[c]? = some p) :
    (accepted ++ [port])[c]? = some p := by
  rw [List.getElem?_append_left (List.getElem?_eq_some_iff.mp h).1]
  exact h

theorem Ported.move {s s' : State} (hs : Ported s) (hm : Move configs s s') : Ported s' := by
  cases hm with
  | @accept l x hx hlive hfree =>
    refine ⟨?_, fun r hr c hc => accepted_append (hs.queued r hr c hc),
      fun r hr c hc => accepted_append (hs.current r hr c hc),
      fun t ht c hc => accepted_append (hs.carried t ht c hc)⟩
    intro y hy c hc
    rcases List.mem_or_eq_of_mem_set hy with hy | rfl
    · exact accepted_append (hs.held y hy c hc)
    · obtain rfl : s.accepted.length = c := by simpa using hc
      simp
  | @datagram l x data peer hx hlive hfree =>
    refine ⟨?_, hs.queued, hs.current, hs.carried⟩
    intro y hy c hc
    rcases List.mem_or_eq_of_mem_set hy with hy | rfl
    · exact hs.held y hy c hc
    · simp at hc
  | @enqueue l x body hx hheld hopen =>
    refine ⟨?_, ?_, hs.current, hs.carried⟩
    · intro y hy c hc
      rcases List.mem_or_eq_of_mem_set hy with hy | rfl
      · exact hs.held y hy c hc
      · simp at hc
    · intro r hr c hc
      rcases List.mem_append.mp hr with hr | hr
      · exact hs.queued r hr c hc
      · obtain rfl := List.mem_singleton.mp hr
        exact hs.held x (List.mem_of_getElem? hx) c (by rw [hheld]; exact congrArg some hc)
  | @drop l x hx =>
    refine ⟨?_, hs.queued, hs.current, hs.carried⟩
    intro y hy c hc
    rcases List.mem_or_eq_of_mem_set hy with hy | rfl
    · exact hs.held y hy c hc
    · simp at hc
  | @receive request queue hq hidle hloop =>
    refine ⟨hs.held, fun r hr c hc => hs.queued r (by rw [hq]; exact List.mem_cons_of_mem _ hr) c hc, ?_,
      hs.carried⟩
    intro r hr c hc
    obtain rfl := Option.some.inj hr
    exact hs.queued request (by rw [hq]; exact List.mem_cons_self) c hc
  | @opened request net hcur =>
    refine ⟨hs.held, hs.queued, by simp, ?_⟩
    intro t ht c hc
    rcases List.mem_append.mp ht with ht | ht
    · exact hs.carried t ht c hc
    · obtain rfl := List.mem_singleton.mp ht
      exact hs.current request hcur c hc
  | @refused request hcur => exact ⟨hs.held, hs.queued, by simp, hs.carried⟩
  | @failHeader k n t ht hst hn =>
    refine ⟨hs.held, hs.queued, hs.current, ?_⟩
    intro u hu c hc
    rcases List.mem_or_eq_of_mem_set hu with hu | rfl
    · exact hs.carried u hu c hc
    · exact hs.carried t (List.mem_of_getElem? ht) c hc
  | @stream k t t' ht hreq hfail hok =>
    refine ⟨hs.held, hs.queued, hs.current, ?_⟩
    intro u hu c hc
    rcases List.mem_or_eq_of_mem_set hu with hu | rfl
    · exact hs.carried u hu c hc
    · rw [hreq] at hc ⊢
      exact hs.carried t (List.mem_of_getElem? ht) c hc
  | leaveLoop hidle => exact ⟨hs.held, hs.queued, hs.current, hs.carried⟩
  | closeChannel hleft => exact ⟨hs.held, by simp, hs.current, hs.carried⟩

end GscFq.Routing
