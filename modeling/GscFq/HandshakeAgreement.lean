import GscFq.LibraryFormats
import GscFq.SmoothRuns

namespace GscFq.HandshakeLink

open ByteStream ControlMessage HandleClient ReverseProxyServer Sessions

variable {X : Externals} {srv : ReverseProxyServer} {client : ReverseProxyClient}
  {proxies : List ReverseProxyConfig} {addr : SocketAddr} {tc ts : UInt64}

def CanStep (X : Externals) (srv : ReverseProxyServer) (client : ReverseProxyClient)
    (proxies : List ReverseProxyConfig) (tc ts : UInt64) (s : State) : Prop :=
  ∃ e, Honest tc ts e ∧ HandshakeLink.step X srv client proxies s e ≠ none

theorem canStep_own {s : State} (e : HandleClient.Event) (ho : isOwn e = true) (hh : Honest tc ts (.server 0 e))
    (h : HandleClient.step X srv 0 s.server e ≠ none) : CanStep X srv client proxies tc ts s := by
  refine ⟨.server 0 e, hh, ?_⟩
  rw [HandshakeLink.step, if_pos ho]
  simpa using h

theorem Smooth.progress_server (hx : X.Lawful) {hello : ClientHello} {data : Bytes} {s : State}
    (hd : X.bincodeSerialize (.clientHello hello) = .ok data) (hl : data.length ≤ maxMessageSize)
    (hs : Smooth X hello.proxies (toBe 4 data.length ++ data) s)
    (hclient : s.client = .awaiting ∨ s.client = .done (.ok ())) (hto : s.toServer = [])
    (hback : s.toClient = []) : Agreed hello.proxies s ∨ CanStep X srv client hello.proxies tc ts s := by
  rcases hs.server with ⟨hst, -⟩ | ha
  · have hreq := hs.request
    rw [hto, List.append_nil, if_neg (by rcases hclient with h | h <;> simp [h]),
      ← List.append_nil (toBe 4 data.length ++ data)] at hreq
    obtain ⟨rest, hr, -⟩ := readFrom_frame hl (hx.deserialize_serialize _ _ hd) hreq
    exact Or.inr (canStep_own (.hello ts 0 none) rfl rfl (by simp [HandleClient.step, hst, handshake, hr]))
  · rcases ha.stage with hp | ⟨hserving, hreg⟩
    · cases hst : s.server.stage with
      | bindTcp todo =>
        cases todo with
        | nil => exact Or.inr (canStep_own .store rfl trivial (by simp [HandleClient.step, hst]))
        | cons c todo =>
          exact Or.inr (canStep_own (.bindTcp false) rfl trivial (by simp [HandleClient.step, hst]))
      | bindUdp port todo =>
        exact Or.inr (canStep_own (.bindUdp false) rfl trivial (by simp [HandleClient.step, hst]))
      | hello | serving | leaving | returned r => simp [hst, Stage.phase] at hp
    · rcases hclient with hc | hc
      · rcases hs.readReply hx with ⟨-, hst | hne⟩ | hok
        · simp [hserving] at hst
        · exact absurd hback hne
        · exact Or.inr ⟨.reply, trivial, by simp [HandshakeLink.step, hc, hok]⟩
      · exact Or.inl ⟨hc, hreg, ha.proxies_eq⟩

theorem Smooth.progress (hx : X.Lawful) {hello : ClientHello} {data : Bytes} {s : State}
    (hd : X.bincodeSerialize (.clientHello hello) = .ok data) (hl : data.length ≤ maxMessageSize)
    (hs : Smooth X hello.proxies (toBe 4 data.length ++ data) s) :
    Agreed hello.proxies s ∨ CanStep X srv client hello.proxies tc ts s := by
  have hrun : s.server.stage.isReturned = false := by
    rw [isReturned_phase]
    rcases hs.server with ⟨hst, -⟩ | ha
    · simp [hst, Stage.phase]
    · rcases ha.stage with hp | ⟨hp, -⟩
      · simp [hp]
      · simp [hp, Stage.phase]
  rcases hs.client with hstart | hclient
  · exact Or.inr ⟨.hello tc none, rfl, by simp [HandshakeLink.step, hstart]⟩
  by_cases hto : s.toServer = []
  · by_cases hback : s.toClient = []
    · exact hs.progress_server hx hd hl hclient hto hback
    · refine Or.inr ⟨.deliverClient s.toClient.length, trivial, ?_⟩
      rw [HandshakeLink.step, if_pos ⟨List.length_pos_iff.mpr hback, le_refl _, hs.response_open⟩]
      simp
  · refine Or.inr ⟨.deliverServer s.toServer.length, trivial, ?_⟩
    rw [HandshakeLink.step, if_pos ⟨List.length_pos_iff.mpr hto, le_refl _⟩]
    simp [HandleClient.step, hrun, hs.request_open]

/-- Undisturbed handshakes of compatible sides end, and end in agreement: the client never fails,
runs are bounded, and a run that cannot be continued has reached the goal. -/
def Completes (X : Externals) (srv : ReverseProxyServer) (client : ReverseProxyClient) (addr : SocketAddr)
    (proxies : List ReverseProxyConfig) (tc ts : UInt64) : Prop :=
  ∃ bound, ∀ es s, Transitions.run (HandshakeLink.step X srv client proxies) (init addr) es = some s →
    (∀ e ∈ es, Honest tc ts e) →
      es.length ≤ bound ∧ (∀ e, s.client ≠ .done (.error e)) ∧
        (Agreed proxies s ∨ CanStep X srv client proxies tc ts s)

theorem handshake_agreement (hx : X.Lawful) (srv : ReverseProxyServer) (client : ReverseProxyClient)
    (addr : SocketAddr) (proxies : List ReverseProxyConfig) :
    (∀ tc ts, Compatible X srv client proxies tc ts → Completes X srv client addr proxies tc ts) ∧
      ∀ es s, Transitions.run (HandshakeLink.step X srv client proxies) (init addr) es = some s →
        s.client = .done (.ok ()) → Passes X srv s.server ∧ ∃ r ∈ s.server.sent, r.status = .ok := by
  constructor
  · intro tc ts hc
    obtain ⟨hello, data, -, rfl, hd, hl, hsend, hf⟩ := makeHello_passes hx hc
    refine ⟨work hello.proxies.length (init addr), fun es s h hes => ?_⟩
    obtain ⟨hs, hlen⟩ := run_smooth hx hd hl hsend hf hes h
    refine ⟨by omega, ?_, hs.progress hx hd hl⟩
    intro e he
    rcases hs.client with h' | h' | h' <;> simp [h'] at he
  · intro es s h hok
    have hl := run_linked hx h
    exact ⟨sent_ok_passes hl.gated (hl.agreed hok), hl.agreed hok⟩

def sampleServer : ReverseProxyServer :=
  (ReverseProxyServer.new (some "my-secret-token") (.v4 0 0 0 0) 9001).withTotpSecret (some "s3cret!")

def sampleClient : ReverseProxyClient where
  serverAddr := .new (.v4 127 0 0 1) 9001
  config := ⟨none, [], none, none, [⟨"8080", "3000", none⟩], none, some ⟨"127.0.0.1:9001", none, some "s3cret!"⟩⟩
  authToken := some "my-secret-token"
  totpSecret := some "s3cret!"

theorem sample_handshake_completes :
    ReverseProxyClient.parseProxyConfigs sampleClient.config = .ok Bincode.sampleProxies ∧
      Completes Bincode.sample sampleServer sampleClient (.new (.v4 127 0 0 1) 50000) Bincode.sampleProxies 59 61 := by
  refine ⟨by rfl, (handshake_agreement (Bincode.externals_lawful _ _) sampleServer sampleClient
    (.new (.v4 127 0 0 1) 50000) Bincode.sampleProxies).1 59 61 ⟨by decide, ?_, by decide, ?_⟩⟩
  · intro hello h
    cases h
    decide
  · exact Or.inr ⟨"s3cret!", rfl, rfl, by decide, by decide⟩

end GscFq.HandshakeLink
