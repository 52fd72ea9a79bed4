import GscFq.ClientAcceptance

namespace GscFq.HandshakeLink

open ByteStream ControlMessage HandleClient ReverseProxyServer Sessions

variable {X : Externals} {srv : ReverseProxyServer} {client : ReverseProxyClient}
  {proxies : List ReverseProxyConfig} {addr : SocketAddr}

def requested (s : State) : Bytes := s.server.control.bytes ++ s.toServer

def Hopeful (c : ClientStage) : Prop := c = .awaiting ∨ c = .done (.ok ())

/-- What has reached the server or is under way to it begins with the frame that the client built at some time of its
clock, unless the client has given up. -/
structure Asked (X : Externals) (client : ReverseProxyClient) (proxies : List ReverseProxyConfig) (s : State) :
    Prop where
  silent : s.client = .start → requested s = []
  sent : Hopeful s.client → ∃ now frame tail, client.sendHello X now proxies = .ok frame ∧ requested s = frame ++ tail

theorem own_control {instant : ℕ} {task task' : Task} {e : HandleClient.Event} {eff : Effect} (ho : isOwn e = true)
    (h : HandleClient.step X srv instant task e = some (task', eff)) : task'.control = task.control := by
  cases e with
  | recv | close => cases ho
  | hello now stamp broken =>
    simp only [HandleClient.step] at h
    split at h
    · obtain ⟨r, -, he⟩ := Option.map_eq_some_iff.mp h
      cases he
      unfold afterHello
      cases r.outcome <;> rfl
    · cases h
  | bindTcp bound | bindUdp bound =>
    simp only [HandleClient.step] at h
    split at h
    · cases bound <;> cases h <;> rfl
    · cases h
  | store | request | inbound | disconnect | leave =>
    simp only [HandleClient.step] at h
    split at h
    · cases h
      rfl
    · cases h

theorem input_bytes {task task' : Task} {chunk : Bytes} {eff : Effect}
    (h : HandleClient.step X srv 0 task (.recv chunk) = some (task', eff)) :
    task'.control.bytes = task.control.bytes ++ chunk := by
  obtain ⟨-, he⟩ := Option.ite_none_right_eq_some.mp h
  cases he
  exact push_bytes _ _

theorem close_bytes {task task' : Task} {e : IoError} {eff : Effect}
    (h : HandleClient.step X srv 0 task (.close e) = some (task', eff)) : task'.control.bytes = task.control.bytes := by
  obtain ⟨-, he⟩ := Option.ite_none_right_eq_some.mp h
  cases he
  rfl

/-- Once the frame is on its way, whatever comes comes after it. -/
theorem Asked.keeps {s t : State} (hs : Asked X client proxies s) (more : Bytes)
    (hstart : t.client = .start → s.client = .start ∧ more = []) (hhope : Hopeful t.client → Hopeful s.client)
    (h : requested t = requested s ++ more) : Asked X client proxies t := by
  constructor
  · intro hc
    obtain ⟨hc', rfl⟩ := hstart hc
    rw [h, hs.silent hc', List.append_nil]
  · intro hc
    obtain ⟨now, frame, tail, hsend, hbytes⟩ := hs.sent (hhope hc)
    exact ⟨now, frame, tail ++ more, hsend, by rw [h, hbytes, List.append_assoc]⟩

theorem Asked.asks {s : State} (hs : Asked X client proxies s) (hstart : s.client = .start) (now : UInt64)
    (broken : Option IoError) : Asked X client proxies (clientHello X client proxies now broken s) := by
  unfold clientHello
  split
  · exact ⟨nofun, by rintro (hc | hc) <;> cases hc⟩
  · exact ⟨nofun, by rintro (hc | hc) <;> cases hc⟩
  · rename_i frame hsend
    refine ⟨nofun, fun _ => ⟨now, frame, [], hsend, ?_⟩⟩
    have hnil := hs.silent hstart
    unfold requested at hnil ⊢
    rw [List.append_nil, ← List.append_assoc, hnil, List.nil_append]

theorem Asked.step {s t : State} {e : Event} (hs : Asked X client proxies s)
    (h : HandshakeLink.step X srv client proxies s e = some t) : Asked X client proxies t := by
  have hsame {t : State} (hc : t.client = s.client) (hb : requested t = requested s) : Asked X client proxies t :=
    hs.keeps [] (fun h => ⟨hc ▸ h, rfl⟩) (fun h => hc ▸ h) (by rw [hb, List.append_nil])
  cases e with
  | hello now broken =>
    obtain ⟨hstart, he⟩ := Option.ite_none_right_eq_some.mp h
    cases he
    exact hs.asks hstart now broken
  | deliverServer n =>
    obtain ⟨-, he⟩ := Option.ite_none_right_eq_some.mp h
    obtain ⟨⟨task', eff⟩, hp, rfl⟩ := Option.map_eq_some_iff.mp he
    refine hsame rfl ?_
    simp only [requested, input_bytes hp, List.append_assoc, List.take_append_drop]
  | server instant e =>
    obtain ⟨ho, he⟩ := Option.ite_none_right_eq_some.mp h
    obtain ⟨⟨task', eff⟩, hp, rfl⟩ := Option.map_eq_some_iff.mp he
    refine hsame rfl ?_
    simp only [requested, own_control ho hp]
  | deliverClient n =>
    obtain ⟨-, he⟩ := Option.ite_none_right_eq_some.mp h
    cases he
    exact hsame rfl rfl
  | reply =>
    obtain ⟨hawait, he⟩ := Option.ite_none_right_eq_some.mp h
    obtain ⟨r, -, rfl⟩ := Option.map_eq_some_iff.mp he
    exact hs.keeps [] nofun (fun _ => Or.inl hawait) (List.append_nil _).symm
  | cutServer e =>
    obtain ⟨⟨task', eff⟩, hp, rfl⟩ := Option.map_eq_some_iff.mp h
    refine hsame rfl ?_
    simp only [requested, close_bytes hp]
  | cutClient e =>
    obtain ⟨-, he⟩ := Option.ite_none_right_eq_some.mp h
    cases he
    exact hsame rfl rfl
  | clientMux bytes =>
    obtain ⟨hok, he⟩ := Option.ite_none_right_eq_some.mp h
    cases he
    exact hs.keeps _ (fun hc => by rw [hok] at hc; cases hc) (fun _ => Or.inr hok) (List.append_assoc _ _ _).symm
  | serverMux bytes =>
    obtain ⟨-, he⟩ := Option.ite_none_right_eq_some.mp h
    cases he
    exact hsame rfl rfl

end GscFq.HandshakeLink
