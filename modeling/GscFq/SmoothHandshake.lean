import GscFq.CompatibleSides

namespace GscFq.HandshakeLink

open ByteStream ControlMessage HandleClient ReverseProxyServer Sessions

variable {X : Externals} {srv : ReverseProxyServer} {client : ReverseProxyClient}
  {proxies : List ReverseProxyConfig} {addr : SocketAddr} {tc ts : UInt64}

structure Accepted (X : Externals) (proxies : List ReverseProxyConfig) (task : Task) : Prop where
  stage : task.stage.phase = .binding ∨ (task.stage = .serving ∧ task.registeredAt ≠ none)
  proxies_eq : task.proxies = proxies
  reply : ∃ r, r.status = .ok ∧ Framed X r task.wire

/-- The invariant of undisturbed runs; `frame` is the hello of the client on the wire. -/
structure Smooth (X : Externals) (proxies : List ReverseProxyConfig) (frame : Bytes) (s : State) : Prop where
  request : s.server.control.bytes ++ s.toServer = if s.client = .start then [] else frame
  request_open : s.server.control.ending = none
  response : s.inbox.bytes ++ s.toClient = s.server.wire
  response_open : s.inbox.ending = none
  server : (s.server.stage = .hello ∧ s.server.wire = []) ∨ Accepted X proxies s.server
  client : s.client = .start ∨ s.client = .awaiting ∨ s.client = .done (.ok ())

/-- What is left to do: the bytes to deliver and the steps either side still has to take, with room
for the frames that are not written yet. -/
def clientWork : ClientStage → ℕ
  | .start => maxMessageSize + 6
  | .awaiting => 1
  | .done _ => 0

def serverWork (n : ℕ) : Stage → ℕ
  | .hello => maxMessageSize + 2 * n + 6
  | .bindTcp todo => 2 * todo.length + 1
  | .bindUdp _ todo => 2 * todo.length + 2
  | _ => 0

def work (n : ℕ) (s : State) : ℕ :=
  clientWork s.client + s.toServer.length + serverWork n s.server.stage + s.toClient.length

theorem Framed.length_le {r : ServerHello} {wire : Bytes} (h : Framed X r wire) :
    wire.length ≤ maxMessageSize + 4 := by
  obtain ⟨data, -, hl, rfl⟩ := h
  rw [List.length_append, toBe_length]
  omega

theorem Smooth.read (hx : X.Lawful) {hello : ClientHello} {data : Bytes} {s : State}
    (hd : X.bincodeSerialize (.clientHello hello) = .ok data) (hl : data.length ≤ maxMessageSize)
    (hs : Smooth X proxies (toBe 4 data.length ++ data) s) :
    readFrom X s.server.control = .pending ∨
      ∃ rest, readFrom X s.server.control = .ok (.clientHello hello) rest := by
  have hreq := hs.request
  split at hreq
  · have hnil : s.server.control.bytes = [] := (List.append_eq_nil_iff.mp hreq).1
    exact Or.inl (readFrom_short (by rw [hnil]; decide) hs.request_open)
  · by_cases hmore : s.toServer = []
    · rw [hmore, List.append_nil, ← List.append_nil (toBe 4 data.length ++ data)] at hreq
      obtain ⟨rest, hr, -⟩ := readFrom_frame hl (hx.deserialize_serialize _ _ hd) hreq
      exact Or.inr ⟨rest, hr⟩
    · exact Or.inl (readFrom_part hl hreq hs.request_open hmore)

theorem Smooth.serverHello (hx : X.Lawful) {hello : ClientHello} {data : Bytes} {s : State} {stamp : UInt64}
    {task' : Task} {eff : Effect} {instant : ℕ} (hd : X.bincodeSerialize (.clientHello hello) = .ok data)
    (hl : data.length ≤ maxMessageSize) (hf : srv.firstFailing X ts hello = none)
    (hs : Smooth X hello.proxies (toBe 4 data.length ++ data) s)
    (h : HandleClient.step X srv instant s.server (.hello ts stamp none) = some (task', eff)) :
    s.server.stage = .hello ∧ s.server.wire = [] ∧ task'.control = s.server.control ∧
      task'.stage = .bindTcp hello.proxies ∧ Accepted X hello.proxies task' := by
  simp only [HandleClient.step] at h
  split at h
  · rename_i hstage
    obtain ⟨r, hr, he⟩ := Option.map_eq_some_iff.mp h
    obtain ⟨rfl, rfl⟩ := Prod.mk.inj he
    have hwire : s.server.wire = [] := by
      rcases hs.server with ⟨-, hw⟩ | ha
      · exact hw
      · rcases ha.stage with hp | ⟨hp, -⟩ <;> simp [hstage, Stage.phase] at hp
    have hread : ∃ rest, readFrom X s.server.control = .ok (.clientHello hello) rest := by
      rcases hs.read hx hd hl with hp | hok
      · simp [handshake, hp] at hr
      · exact hok
    obtain ⟨rest, hread⟩ := hread
    have hsize : encodedSize (.clientHello hello) ≤ maxMessageSize := by
      rw [← hx.serialize_length _ _ hd]
      exact hl
    have hfit := okReply_fits hsize stamp s.server.addr
    obtain ⟨bytes, hw, ha⟩ := answer_accepted hx stamp s.server.addr hf hfit
    simp only [handshake, hread, ha, Option.some.injEq] at hr
    subst hr
    obtain ⟨data', hd', hl', rfl⟩ := writeTo_ok hw
    have hlen : data'.length = encodedSize (.serverHello (okReply stamp s.server.addr hello.proxies)) :=
      hx.serialize_length _ _ hd'
    have hmod : data'.length % 2 ^ 32 = data'.length :=
      Nat.mod_eq_of_lt ((hlen ▸ hfit).trans_lt (by decide))
    refine ⟨hstage, hwire, rfl, rfl, ?_⟩
    refine ⟨Or.inl rfl, rfl, ⟨okReply stamp s.server.addr hello.proxies, rfl, data', hd', hlen ▸ hfit, ?_⟩⟩
    simp only [afterHello, hmod]
  · cases h

theorem Accepted.late (proxies : List ReverseProxyConfig) {instant : ℕ} {task task' : Task}
    {e : HandleClient.Event} {eff : Effect}
    (he : (∃ b, e = .bindTcp b) ∨ (∃ b, e = .bindUdp b) ∨ e = .store) (n : ℕ)
    (h : HandleClient.step X srv instant task e = some (task', eff)) :
    task'.control = task.control ∧ task'.wire = task.wire ∧ task.stage.phase = .binding ∧
      (Accepted X proxies task → Accepted X proxies task') ∧ serverWork n task'.stage < serverWork n task.stage := by
  rcases he with ⟨b, rfl⟩ | ⟨b, rfl⟩ | rfl
  · simp only [HandleClient.step] at h
    split at h
    · rename_i hstage
      cases b <;> cases h <;>
        exact ⟨rfl, rfl, by rw [hstage]; rfl, fun ha => ⟨Or.inl rfl, ha.proxies_eq, ha.reply⟩,
          by simp only [hstage, serverWork, List.length_cons]; omega⟩
    · cases h
  · simp only [HandleClient.step] at h
    split at h
    · rename_i hstage
      cases b <;> cases h <;>
        exact ⟨rfl, rfl, by rw [hstage]; rfl, fun ha => ⟨Or.inl rfl, ha.proxies_eq, ha.reply⟩,
          by simp only [hstage, serverWork]; omega⟩
    · cases h
  · simp only [HandleClient.step] at h
    split at h
    · rename_i hstage
      cases h
      exact ⟨rfl, rfl, by rw [hstage]; rfl, fun ha => ⟨Or.inr ⟨rfl, by simp⟩, ha.proxies_eq, ha.reply⟩,
        by simp [hstage, serverWork]⟩
    · cases h

theorem Smooth.late {frame : Bytes} {s : State} {instant : ℕ} {task' : Task} {e : HandleClient.Event}
    {eff : Effect} (hs : Smooth X proxies frame s)
    (he : (∃ b, e = .bindTcp b) ∨ (∃ b, e = .bindUdp b) ∨ e = .store) (n : ℕ)
    (h : HandleClient.step X srv instant s.server e = some (task', eff)) :
    Smooth X proxies frame
        { s with server := task', toClient := s.toClient ++ task'.wire.drop s.server.wire.length } ∧
      work n { s with server := task', toClient := s.toClient ++ task'.wire.drop s.server.wire.length } <
        work n s := by
  obtain ⟨hctl, hwire, hphase, hacc, hwork⟩ := Accepted.late proxies he n h
  have ha : Accepted X proxies s.server := by
    rcases hs.server with ⟨hst, -⟩ | ha
    · simp [hst, Stage.phase] at hphase
    · exact ha
  rw [hwire, List.drop_length, List.append_nil]
  refine ⟨⟨by rw [hctl]; exact hs.request, by rw [hctl]; exact hs.request_open, by rw [hwire]; exact hs.response,
    hs.response_open, Or.inr (hacc ha), hs.client⟩, ?_⟩
  simp only [work]
  omega

theorem Smooth.readReply (hx : X.Lawful) {frame : Bytes} {s : State} (hs : Smooth X proxies frame s) :
    (ReverseProxyClient.readReply X s.inbox = none ∧ (s.server.stage = .hello ∨ s.toClient ≠ [])) ∨
      ReverseProxyClient.readReply X s.inbox = some (.ok ()) := by
  have hresp := hs.response
  rcases hs.server with ⟨hst, hw⟩ | ha
  · rw [hw] at hresp
    have hnil := (List.append_eq_nil_iff.mp hresp).1
    have hp : readFrom X s.inbox = .pending := readFrom_short (by rw [hnil]; decide) hs.response_open
    exact Or.inl ⟨by simp [ReverseProxyClient.readReply, hp], Or.inl hst⟩
  · obtain ⟨r, hok, data, hd, hl, hw⟩ := ha.reply
    rw [hw] at hresp
    by_cases hmore : s.toClient = []
    · rw [hmore, List.append_nil, ← List.append_nil (toBe 4 data.length ++ data)] at hresp
      obtain ⟨rest, hr, -⟩ := readFrom_frame hl (hx.deserialize_serialize _ _ hd) hresp
      exact Or.inr (by simp [ReverseProxyClient.readReply, hr, hok])
    · have hp := readFrom_part (X := X) hl hresp hs.response_open hmore
      exact Or.inl ⟨by simp [ReverseProxyClient.readReply, hp], Or.inr hmore⟩

end GscFq.HandshakeLink
