import GscFq.RoutingInvariants
import GscFq.UdpExchange

namespace GscFq.UdpExchange

open ByteStream HandleClient GscFq.Lists Routing Tunnel

variable {configs : List ReverseProxyConfig}

def holdsDatagram (d : Datagram) (x : Listener) : Bool := decide (x.held = some (.udp d.data d.peer) ∧ x.port = d.port)

def asksFor (d : Datagram) (r : TunnelRequest) : Bool := decide (r = ⟨d.port, .udp d.data d.peer⟩)

def places (s : Routing.State) (d : Datagram) : ℕ :=
  s.listeners.countP (holdsDatagram d) + s.queue.countP (asksFor d) + s.current.toList.countP (asksFor d) +
    s.streams.countP (fun t => asksFor d t.request)

/-- A step as the datagrams see it. -/
inductive Turn (configs : List ReverseProxyConfig) (s : Routing.State) : Routing.Event → Routing.State → Prop where
  | take {l : ℕ} {x : Listener} {data : Bytes} {peer : SocketAddr} (listener : s.listeners[l]? = some x)
      (free : x.held = none) (short : data.length ≤ 65535) :
      Turn configs s (.datagram l data peer)
        { s with listeners := s.listeners.set l { x with held := some (.udp data peer) } }
  | release {e : Routing.Event} {l : ℕ} {x y : Listener} {accepted : List UInt16} {dropped : List ConnId}
      (quiet : readBy s e = []) (listener : s.listeners[l]? = some x)
      (held : ∀ data peer, y.held ≠ some (.udp data peer)) :
      Turn configs s e
        { s with accepted := accepted, dropped := dropped, listeners := s.listeners.set l y }
  | enqueue {e : Routing.Event} {l : ℕ} {x : Listener} {body : Body} (quiet : readBy s e = [])
      (listener : s.listeners[l]? = some x) (held : x.held = some body) :
      Turn configs s e { s with
        listeners := s.listeners.set l { x with held := none }
        queue := s.queue ++ [⟨x.port, body⟩] }
  | receive {e : Routing.Event} {request : TunnelRequest} {queue : List TunnelRequest} (quiet : readBy s e = [])
      (head : s.queue = request :: queue) (idle : s.current = none) :
      Turn configs s e { s with queue := queue, current := some request }
  | opened {e : Routing.Event} {request : TunnelRequest} {net : LocalNet} (quiet : readBy s e = [])
      (current : s.current = some request) :
      Turn configs s e { s with
        current := none
        streams := s.streams ++ [⟨request, .opened, [], ⟨⟨[], none⟩, net, none⟩⟩] }
  | discard {e : Routing.Event} {queue : List TunnelRequest} {current : Option TunnelRequest}
      {dropped : List ConnId} {looping channelOpen : Bool} (quiet : readBy s e = [])
      (fewer : queue.Sublist s.queue) (none : current.toList.Sublist s.current.toList) :
      Turn configs s e { s with
        queue := queue
        current := current
        dropped := dropped
        looping := looping
        channelOpen := channelOpen }
  | stream {e : Routing.Event} {k : ℕ} {t t' : TunnelStream} {dropped : List ConnId} (quiet : readBy s e = [])
      (stream : s.streams[k]? = some t) (request : t'.request = t.request)
      (client : t'.client = t.client ∨ ∃ e, t.client.step configs e = some t'.client) :
      Turn configs s e { s with streams := s.streams.set k t', dropped := dropped }

theorem streamStep_client {t t' : TunnelStream} {e : Routing.Event} (h : streamStep configs t e = some t') :
    t'.client = t.client ∨ ∃ e, t.client.step configs e = some t'.client := by
  unfold streamStep at h
  split at h
  · split at h
    · cases h
      exact Or.inl rfl
    · cases h
  · split at h
    · split at h
      · cases h
        exact Or.inl rfl
      · cases h
    · cases h
  · split at h
    · obtain ⟨client, hc, rfl⟩ := Option.map_eq_some_iff.mp h
      exact Or.inr ⟨_, hc⟩
    · cases h
  · cases h
  · obtain ⟨client, hc, rfl⟩ := Option.map_eq_some_iff.mp h
    exact Or.inr ⟨_, hc⟩
  · cases h

theorem updateStream_turn {s s' : Routing.State} {k : ℕ} {e : Routing.Event} (quiet : readBy s e = [])
    (h : updateStream configs s k e = some s') : Turn configs s e s' := by
  obtain ⟨t, ht, h⟩ := Option.bind_eq_some_iff.mp h
  obtain ⟨t', hstep, rfl⟩ := Option.map_eq_some_iff.mp h
  exact .stream quiet ht (streamStep_ok hstep).1 (streamStep_client hstep)

theorem listenerStep_turn {s s' : Routing.State} {l : ℕ} {x : Listener} {e : Routing.Event}
    (hx : s.listeners[l]? = some x) (hl : ∀ m data peer, e = .datagram m data peer → m = l)
    (h : listenerStep s l x e = some s') : Turn configs s e s' := by
  cases e with
  | accept m =>
    simp only [listenerStep] at h
    split at h
    · cases h
      exact .release rfl hx (by simp)
    · cases h
  | datagram m data peer =>
    obtain rfl := hl m data peer rfl
    simp only [listenerStep] at h
    split at h
    · rename_i hc
      cases h
      exact .take hx hc.2.2.1 hc.2.2.2
    · cases h
  | send m =>
    simp only [listenerStep] at h
    split at h
    · cases h
    · rename_i body hbody
      split at h
      · cases h
        exact .release rfl hx (by simp)
      · split at h
        · cases h
          exact .enqueue rfl hx hbody
        · cases h
  | abort m =>
    simp only [listenerStep] at h
    split at h
    · cases h
      exact .release rfl hx (by simp)
    · cases h
  | receive | outbound | header | headerFails | relay | deliver | client | leaveLoop | closeChannel => cases h

theorem step_turn {s s' : Routing.State} {e : Routing.Event} (h : Routing.step configs s e = some s') :
    Turn configs s e s' := by
  cases e with
  | accept l | send l | abort l =>
    obtain ⟨x, hx, h⟩ := Option.bind_eq_some_iff.mp h
    exact listenerStep_turn hx (by simp) h
  | datagram l data peer =>
    obtain ⟨x, hx, h⟩ := Option.bind_eq_some_iff.mp h
    exact listenerStep_turn hx (by simp) h
  | receive =>
    simp only [Routing.step] at h
    split at h
    · rename_i request queue hq hcur
      split at h
      · cases h
        exact .receive rfl hq hcur
      · cases h
    · cases h
  | outbound net =>
    simp only [Routing.step] at h
    split at h
    · rename_i request net hcur
      cases h
      exact .opened rfl hcur
    · cases h
      exact .discard rfl (.refl _) (by simp)
    · cases h
  | headerFails k n =>
    obtain ⟨t, ht, h⟩ := Option.bind_eq_some_iff.mp h
    split at h
    · cases h
      exact .stream rfl ht rfl (Or.inl rfl)
    · cases h
  | header k | relay k _ | deliver k _ | client k _ => exact updateStream_turn rfl h
  | leaveLoop =>
    simp only [Routing.step] at h
    split at h
    · cases h
      exact .discard rfl (.refl _) (.refl _)
    · cases h
  | closeChannel =>
    simp only [Routing.step] at h
    split at h
    · cases h
      exact .discard rfl (by simp) (.refl _)
    · cases h

theorem Turn.places {s s' : Routing.State} {e : Routing.Event} (h : Turn configs s e s') (d : Datagram) :
    places s' d ≤ places s d + (readBy s e).count d := by
  cases h with
  | @take l x data peer hx hfree hshort =>
    have hset := countP_set_get (holdsDatagram d) { x with held := some (.udp data peer) } hx
    have hread : readBy s (.datagram l data peer) = [⟨x.port, peer, data⟩] := by simp [readBy, hx]
    have hold : holdsDatagram d x = false := by simp [holdsDatagram, hfree]
    have hnew : holdsDatagram d { x with held := some (.udp data peer) } = true ↔ (⟨x.port, peer, data⟩ : Datagram) = d := by
      cases d
      simp [holdsDatagram, and_comm]
    rw [hread, List.count_singleton]
    simp only [hold, hnew, Bool.false_eq_true, if_false] at hset
    simp only [UdpExchange.places, beq_iff_eq]
    omega
  | @release _ l x y accepted dropped hquiet hx hheld =>
    have hset := countP_set_get (holdsDatagram d) y hx
    have hnew : holdsDatagram d y = false := by simp [holdsDatagram, hheld]
    simp only [hnew, Bool.false_eq_true, if_false] at hset
    simp only [UdpExchange.places]
    omega
  | @enqueue _ l x body hquiet hx hheld =>
    have hset := countP_set_get (holdsDatagram d) { x with held := none } hx
    have hnew : holdsDatagram d { x with held := none } = false := by simp [holdsDatagram]
    have hask : holdsDatagram d x = asksFor d ⟨x.port, body⟩ := by simp [holdsDatagram, asksFor, hheld, and_comm]
    simp only [hnew, Bool.false_eq_true, if_false] at hset
    simp only [UdpExchange.places, List.countP_append, List.countP_singleton, ← hask]
    omega
  | @receive _ request queue hquiet hq hidle =>
    simp only [UdpExchange.places, hq, hidle, List.countP_cons, Option.toList_none, Option.toList_some, List.countP_nil]
    omega
  | @opened _ request net hquiet hcur =>
    simp only [UdpExchange.places, hcur, List.countP_cons, List.countP_append, List.countP_nil, Option.toList_none,
      Option.toList_some]
    omega
  | @discard _ queue current dropped looping channelOpen hquiet hfewer hnone =>
    have hq := hfewer.countP_le (p := asksFor d)
    have hc := hnone.countP_le (p := asksFor d)
    simp only [UdpExchange.places]
    omega
  | @stream _ k t t' dropped hquiet ht hreq hclient =>
    have hset := countP_set_get (fun u : TunnelStream => asksFor d u.request) t' ht
    rw [hreq] at hset
    simp only [UdpExchange.places]
    omega

end GscFq.UdpExchange
