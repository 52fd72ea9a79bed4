import GscFq.Confinement
import GscFq.Routing

namespace GscFq.Routing

open ByteStream HandleClient Tunnel

variable {configs : List ReverseProxyConfig}

/-- The bytes that have left the server on a stream: none yet, the frame of the request and what is
relayed after it, or a part of the frame. -/
def Sent (t : TunnelStream) (bytes : Bytes) : Prop :=
  match t.stage with
  | .opened => bytes = []
  | .carrying => ∃ data, bytes = openFrame t.request ++ data
  | .failed => ∃ n < (openFrame t.request).length, bytes = (openFrame t.request).take n

def StreamOk (configs : List ReverseProxyConfig) (t : TunnelStream) : Prop :=
  ClientTunnels.Acted configs t.client ∧ Sent t (t.client.stream.bytes ++ t.inFlight)

inductive Move (configs : List ReverseProxyConfig) (s : State) : State → Prop where
  | accept {l : ℕ} {x : Listener} (listener : s.listeners[l]? = some x) (live : x.live = true)
      (free : x.held = none) :
      Move configs s { s with
        accepted := s.accepted ++ [x.port]
        listeners := s.listeners.set l { x with held := some (.tcp s.accepted.length) } }
  | datagram {l : ℕ} {x : Listener} {data : Bytes} {peer : SocketAddr} (listener : s.listeners[l]? = some x)
      (live : x.live = true) (free : x.held = none) :
      Move configs s { s with listeners := s.listeners.set l { x with held := some (.udp data peer) } }
  | enqueue {l : ℕ} {x : Listener} {body : Body} (listener : s.listeners[l]? = some x)
      (held : x.held = some body) (isOpen : s.channelOpen = true) :
      Move configs s { s with
        listeners := s.listeners.set l { x with held := none }
        queue := s.queue ++ [⟨x.port, body⟩] }
  | drop {l : ℕ} {x : Listener} (listener : s.listeners[l]? = some x) : Move configs s (dropHeld s l x)
  | receive {request : TunnelRequest} {queue : List TunnelRequest} (head : s.queue = request :: queue)
      (idle : s.current = none) (looping : s.looping = true) :
      Move configs s { s with queue := queue, current := some request }
  | opened {request : TunnelRequest} {net : LocalNet} (current : s.current = some request) :
      Move configs s { s with
        current := none
        streams := s.streams ++ [⟨request, .opened, [], ⟨⟨[], none⟩, net, none⟩⟩] }
  | refused {request : TunnelRequest} (current : s.current = some request) :
      Move configs s { s with current := none, dropped := s.dropped ++ request.body.conns }
  | failHeader {k n : ℕ} {t : TunnelStream} (stream : s.streams[k]? = some t) (opened : t.stage = .opened)
      (part : n < (openFrame t.request).length) :
      Move configs s { s with
        streams := s.streams.set k { t with stage := .failed, inFlight := (openFrame t.request).take n }
        dropped := s.dropped ++ t.request.body.conns }
  | stream {k : ℕ} {t t' : TunnelStream} (stream : s.streams[k]? = some t) (request : t'.request = t.request)
      (failed : t'.stage = .failed ↔ t.stage = .failed) (ok : StreamOk configs t → StreamOk configs t') :
      Move configs s { s with streams := s.streams.set k t' }
  | leaveLoop (idle : s.current = none) : Move configs s { s with looping := false }
  | closeChannel (left : s.looping = false) : Move configs s { s with
      channelOpen := false, queue := [], dropped := s.dropped ++ s.queue.flatMap (·.body.conns) }

theorem client_bytes {task task' : ClientTunnels.Task} {e : ClientTunnels.Event}
    (h : task.step configs e = some task') (hne : ∀ i chunk, e ≠ .recv i chunk) :
    task'.stream.bytes = task.stream.bytes := by
  cases e with
  | recv i chunk => exact absurd rfl (hne i chunk)
  | close i e =>
    simp only [ClientTunnels.Task.step] at h
    split at h
    · cases h
      rfl
    · cases h
  | localSends i bytes | relayEnds i =>
    cases h
    rfl
  | poll i =>
    simp only [ClientTunnels.Task.step, ClientTunnels.Task.poll] at h
    split at h
    · cases h
      rfl
    · cases h
  | inbound net | stop => cases h

theorem streamStep_ok {t t' : TunnelStream} {e : Event} (h : streamStep configs t e = some t') :
    t'.request = t.request ∧ (t'.stage = .failed ↔ t.stage = .failed) ∧
      (StreamOk configs t → StreamOk configs t') := by
  unfold streamStep at h
  split at h
  · split at h
    · rename_i hst
      cases h
      refine ⟨rfl, by simp [hst], ?_⟩
      rintro ⟨hact, hsent⟩
      simp only [Sent, hst] at hsent
      exact ⟨hact, [], by simp [(List.append_eq_nil_iff.mp hsent).1]⟩
    · cases h
  · rename_i bytes
    split at h
    · split at h
      · rename_i hst
        cases h
        refine ⟨rfl, Iff.rfl, ?_⟩
        rintro ⟨hact, hsent⟩
        simp only [Sent, hst] at hsent
        obtain ⟨data, hd⟩ := hsent
        refine ⟨hact, ?_⟩
        simp only [Sent, hst]
        exact ⟨data ++ bytes, by rw [← List.append_assoc, hd, List.append_assoc]⟩
      · cases h
    · cases h
  · rename_i n
    split at h
    · obtain ⟨client, hc, rfl⟩ := Option.map_eq_some_iff.mp h
      refine ⟨rfl, Iff.rfl, ?_⟩
      rintro ⟨hact, hbytes⟩
      have hb : client.stream.bytes ++ t.inFlight.drop n = t.client.stream.bytes ++ t.inFlight := by
        simp only [ClientTunnels.Task.step] at hc
        split at hc
        · cases hc
          simp [Stream.push, Stream.bytes]
        · cases hc
      exact ⟨hact.step hc, by simp only [Sent, hb]; exact hbytes⟩
    · cases h
  · cases h
  · rename_i e hne
    obtain ⟨client, hc, rfl⟩ := Option.map_eq_some_iff.mp h
    have hb := client_bytes hc (by simpa using hne)
    refine ⟨rfl, Iff.rfl, ?_⟩
    rintro ⟨hact, hbytes⟩
    exact ⟨hact.step hc, by simp only [Sent, hb]; exact hbytes⟩
  · cases h

theorem updateStream_move {s s' : State} {k : ℕ} {e : Event} (h : updateStream configs s k e = some s') :
    Move configs s s' := by
  obtain ⟨t, ht, h⟩ := Option.bind_eq_some_iff.mp h
  obtain ⟨t', hstep, rfl⟩ := Option.map_eq_some_iff.mp h
  obtain ⟨hreq, hfail, hok⟩ := streamStep_ok hstep
  exact .stream ht hreq hfail hok

theorem step_move {s s' : State} {e : Event} (h : step configs s e = some s') : Move configs s s' := by
  cases e with
  | accept l =>
    obtain ⟨x, hx, h⟩ := Option.bind_eq_some_iff.mp h
    simp only [listenerStep] at h
    split at h
    · rename_i hc
      cases h
      exact .accept hx hc.1 hc.2.2
    · cases h
  | datagram l data peer =>
    obtain ⟨x, hx, h⟩ := Option.bind_eq_some_iff.mp h
    simp only [listenerStep] at h
    split at h
    · rename_i hc
      cases h
      exact .datagram hx hc.1 hc.2.2.1
    · cases h
  | send l =>
    obtain ⟨x, hx, h⟩ := Option.bind_eq_some_iff.mp h
    simp only [listenerStep] at h
    split at h
    · cases h
    · rename_i body hbody
      split at h
      · cases h
        exact .drop hx
      · rename_i hopen
        split at h
        · cases h
          exact .enqueue hx hbody (by simpa using hopen)
        · cases h
  | abort l =>
    obtain ⟨x, hx, h⟩ := Option.bind_eq_some_iff.mp h
    simp only [listenerStep] at h
    split at h
    · cases h
      exact .drop hx
    · cases h
  | receive =>
    simp only [step] at h
    split at h
    · rename_i request queue hq hcur
      split at h
      · rename_i hloop
        cases h
        exact .receive hq hcur hloop
      · cases h
    · cases h
  | outbound net =>
    simp only [step] at h
    split at h
    · rename_i request net hcur
      cases h
      exact .opened hcur
    · rename_i request hcur
      cases h
      exact .refused hcur
    · cases h
  | header k => exact updateStream_move h
  | headerFails k n =>
    obtain ⟨t, ht, h⟩ := Option.bind_eq_some_iff.mp h
    split at h
    · rename_i hc
      cases h
      exact .failHeader ht hc.1 hc.2
    · cases h
  | relay k bytes => exact updateStream_move h
  | deliver k n => exact updateStream_move h
  | client k e => exact updateStream_move h
  | leaveLoop =>
    simp only [step] at h
    split at h
    · rename_i hc
      cases h
      exact .leaveLoop hc.2
    · cases h
  | closeChannel =>
    simp only [step] at h
    split at h
    · rename_i hc
      cases h
      exact .closeChannel hc.1
    · cases h

end GscFq.Routing
