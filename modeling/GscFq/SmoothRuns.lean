import GscFq.SmoothHandshake

namespace GscFq.HandshakeLink

open ByteStream ControlMessage HandleClient ReverseProxyServer Sessions

variable {X : Externals} {srv : ReverseProxyServer} {client : ReverseProxyClient}
  {proxies : List ReverseProxyConfig} {addr : SocketAddr} {tc ts : UInt64}

theorem Smooth.sends {frame : Bytes} {s s' : State} (hsend : client.sendHello X tc proxies = .ok frame)
    (hlen : frame.length ≤ maxMessageSize + 4) (hs : Smooth X proxies frame s)
    (h : step X srv client proxies s (.hello tc none) = some s') :
    Smooth X proxies frame s' ∧ work proxies.length s' < work proxies.length s := by
  simp only [step] at h
  split at h
  · rename_i hstart
    cases h
    have hreq := hs.request
    rw [if_pos hstart] at hreq
    obtain ⟨hctl, hto⟩ := List.append_eq_nil_iff.mp hreq
    simp only [clientHello, hsend]
    refine ⟨⟨by simp [hctl, hto], hs.request_open, hs.response, hs.response_open, hs.server, Or.inr (Or.inl rfl)⟩, ?_⟩
    simp only [work, clientWork, hstart, hto, List.nil_append, List.length_nil]
    omega
  · cases h

theorem Smooth.deliversRequest {frame : Bytes} {s s' : State} {n : ℕ} (hs : Smooth X proxies frame s)
    (h : step X srv client proxies s (.deliverServer n) = some s') :
    Smooth X proxies frame s' ∧ work proxies.length s' < work proxies.length s := by
  simp only [step] at h
  split at h
  · rename_i hn
    obtain ⟨⟨task', eff⟩, hp, rfl⟩ := Option.map_eq_some_iff.mp h
    simp only [HandleClient.step] at hp
    split at hp
    · cases hp
      refine ⟨⟨?_, hs.request_open, hs.response, hs.response_open, ?_, hs.client⟩, ?_⟩
      · simp only [push_bytes, List.append_assoc, List.take_append_drop]
        exact hs.request
      · exact hs.server.imp id (fun ha => ⟨ha.stage, ha.proxies_eq, ha.reply⟩)
      · simp only [work, List.length_drop]
        omega
    · cases hp
  · cases h

theorem Smooth.answers (hx : X.Lawful) {hello : ClientHello} {data : Bytes} {s : State} {stamp : UInt64}
    {task' : Task} {eff : Effect} {instant : ℕ} (hd : X.bincodeSerialize (.clientHello hello) = .ok data)
    (hl : data.length ≤ maxMessageSize) (hf : srv.firstFailing X ts hello = none)
    (hs : Smooth X hello.proxies (toBe 4 data.length ++ data) s)
    (hp : HandleClient.step X srv instant s.server (.hello ts stamp none) = some (task', eff)) :
    Smooth X hello.proxies (toBe 4 data.length ++ data)
        { s with server := task', toClient := s.toClient ++ task'.wire.drop s.server.wire.length } ∧
      work hello.proxies.length
          { s with server := task', toClient := s.toClient ++ task'.wire.drop s.server.wire.length } <
        work hello.proxies.length s := by
  obtain ⟨hstage, hwire, hctl, hst', ha⟩ := hs.serverHello hx hd hl hf hp
  have hresp := hs.response
  rw [hwire] at hresp
  obtain ⟨hin, hto⟩ := List.append_eq_nil_iff.mp hresp
  refine ⟨⟨by rw [hctl]; exact hs.request, by rw [hctl]; exact hs.request_open, ?_, hs.response_open, Or.inr ha,
    hs.client⟩, ?_⟩
  · simp [hin, hto, hwire]
  · obtain ⟨r, -, hfr⟩ := ha.reply
    have hlen := Framed.length_le hfr
    simp only [work, hstage, hst', hto, hwire, serverWork, List.length_nil, List.drop_zero, List.nil_append]
    omega

theorem Smooth.deliversReply {frame : Bytes} {s s' : State} {n : ℕ} (hs : Smooth X proxies frame s)
    (h : step X srv client proxies s (.deliverClient n) = some s') :
    Smooth X proxies frame s' ∧ work proxies.length s' < work proxies.length s := by
  simp only [step] at h
  split at h
  · rename_i hn
    cases h
    refine ⟨⟨hs.request, hs.request_open, ?_, hs.response_open, hs.server, hs.client⟩, ?_⟩
    · rw [push_bytes, List.append_assoc, List.take_append_drop]
      exact hs.response
    · simp only [work, List.length_drop]
      omega
  · cases h

theorem Smooth.takesReply (hx : X.Lawful) {frame : Bytes} {s s' : State} (hs : Smooth X proxies frame s)
    (h : step X srv client proxies s .reply = some s') :
    Smooth X proxies frame s' ∧ work proxies.length s' < work proxies.length s := by
  simp only [step] at h
  split at h
  · rename_i hawait
    obtain ⟨r, hr, rfl⟩ := Option.map_eq_some_iff.mp h
    obtain rfl : r = .ok () := by
      rcases hs.readReply hx with ⟨hnone, -⟩ | hok
      · rw [hnone] at hr
        cases hr
      · exact (Option.some.inj (hok.symm.trans hr)).symm
    refine ⟨⟨?_, hs.request_open, hs.response, hs.response_open, hs.server, Or.inr (Or.inr rfl)⟩, ?_⟩
    · have hreq := hs.request
      rw [if_neg (by rw [hawait]; simp)] at hreq
      simpa using hreq
    · simp only [work, clientWork, hawait]
      omega
  · cases h

theorem Smooth.step (hx : X.Lawful) {hello : ClientHello} {data : Bytes} {s s' : State} {e : Event}
    (hd : X.bincodeSerialize (.clientHello hello) = .ok data) (hl : data.length ≤ maxMessageSize)
    (hsend : client.sendHello X tc hello.proxies = .ok (toBe 4 data.length ++ data))
    (hf : srv.firstFailing X ts hello = none) (he : Honest tc ts e)
    (hs : Smooth X hello.proxies (toBe 4 data.length ++ data) s)
    (h : step X srv client hello.proxies s e = some s') :
    Smooth X hello.proxies (toBe 4 data.length ++ data) s' ∧
      work hello.proxies.length s' < work hello.proxies.length s := by
  cases e with
  | hello now broken =>
    cases broken with
    | some e => exact he.elim
    | none =>
      obtain rfl : now = tc := he
      refine hs.sends hsend ?_ h
      rw [List.length_append, toBe_length]
      omega
  | deliverServer n => exact hs.deliversRequest h
  | server instant e =>
    simp only [HandshakeLink.step] at h
    split at h
    · obtain ⟨⟨task', eff⟩, hp, rfl⟩ := Option.map_eq_some_iff.mp h
      cases e with
      | hello now stamp broken =>
        cases broken with
        | some e => exact he.elim
        | none =>
          obtain rfl : now = ts := he
          exact hs.answers hx hd hl hf hp
      | bindTcp b => exact hs.late (Or.inl ⟨b, rfl⟩) _ hp
      | bindUdp b => exact hs.late (Or.inr (Or.inl ⟨b, rfl⟩)) _ hp
      | store => exact hs.late (Or.inr (Or.inr rfl)) _ hp
      | recv _ | close _ | request _ | inbound | disconnect | leave => exact he.elim
    · cases h
  | deliverClient n => exact hs.deliversReply h
  | reply => exact hs.takesReply hx h
  | cutServer _ | cutClient _ | clientMux _ | serverMux _ => exact he.elim

theorem init_smooth (frame : Bytes) : Smooth X proxies frame (init addr) :=
  ⟨rfl, rfl, rfl, rfl, Or.inl ⟨rfl, rfl⟩, Or.inl rfl⟩

theorem run_smooth (hx : X.Lawful) {hello : ClientHello} {data : Bytes} {es : List Event} {s : State}
    (hd : X.bincodeSerialize (.clientHello hello) = .ok data) (hl : data.length ≤ maxMessageSize)
    (hsend : client.sendHello X tc hello.proxies = .ok (toBe 4 data.length ++ data))
    (hf : srv.firstFailing X ts hello = none) (hes : ∀ e ∈ es, Honest tc ts e)
    (h : Transitions.run (HandshakeLink.step X srv client hello.proxies) (init addr) es = some s) :
    Smooth X hello.proxies (toBe 4 data.length ++ data) s ∧
      es.length + work hello.proxies.length s ≤ work hello.proxies.length (init addr) :=
  Transitions.run_measure (work hello.proxies.length) h hes (init_smooth _)
    (fun _ _ _ he hs hstep => hs.step hx hd hl hsend hf he hstep)

end GscFq.HandshakeLink
