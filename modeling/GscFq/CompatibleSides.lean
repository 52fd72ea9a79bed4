import GscFq.ClientAcceptance

namespace GscFq.HandshakeLink

open ByteStream ControlMessage HandleClient ReverseProxyServer Sessions

variable {X : Externals} {srv : ReverseProxyServer} {client : ReverseProxyClient}
  {proxies : List ReverseProxyConfig} {addr : SocketAddr} {tc ts : UInt64}

/-- The events of an undisturbed handshake: the client reads its clock at `tc`, the server at `ts`,
writes and streams do not fail, and ports may or may not be free. -/
def Honest (tc ts : UInt64) : Event → Prop
  | .hello now none => now = tc
  | .deliverServer _ => True
  | .server _ (.hello now _ none) => now = ts
  | .server _ (.bindTcp _) => True
  | .server _ (.bindUdp _) => True
  | .server _ .store => True
  | .deliverClient _ => True
  | .reply => True
  | _ => False

def Agreed (proxies : List ReverseProxyConfig) (s : State) : Prop :=
  s.client = .done (.ok ()) ∧ s.server.registeredAt ≠ none ∧ s.server.proxies = proxies

structure Compatible (X : Externals) (srv : ReverseProxyServer) (client : ReverseProxyClient)
    (proxies : List ReverseProxyConfig) (tc ts : UInt64) : Prop where
  nonempty : proxies ≠ []
  size : ∀ hello, client.makeHello X tc proxies = .ok hello → encodedSize (.clientHello hello) ≤ maxMessageSize
  token : srv.tokenValid (client.authToken.getD "") = true
  totp : srv.totpSecret = none ∨ ∃ secret, srv.totpSecret = some secret ∧ client.totpSecret = some secret ∧
    ts.toNat ≤ tc.toNat + 30 ∧ tc.toNat ≤ ts.toNat + 30

theorem totpValid_generate (hc : Compatible X srv client proxies tc ts) :
    srv.totpValid X ts (client.totpSecret.map (fun secret =>
      (Totp.ofSecret X.toTotpPrimitives secret).generate X.toTotpPrimitives tc)) = true := by
  rcases hc.totp with hnone | ⟨secret, hs, hs', hl, hu⟩
  · simp [totpValid, hnone]
  · simp only [totpValid, hs, hs', Option.map_some]
    exact Totp.verify_generate _ _ tc ts (Totp.ofSecret_step _ secret) hl hu

theorem makeHello_passes (hx : X.Lawful) (hc : Compatible X srv client proxies tc ts) :
    ∃ hello data, client.makeHello X tc proxies = .ok hello ∧ hello.proxies = proxies ∧
      X.bincodeSerialize (.clientHello hello) = .ok data ∧ data.length ≤ maxMessageSize ∧
      client.sendHello X tc proxies = .ok (toBe 4 data.length ++ data) ∧
      srv.firstFailing X ts hello = none := by
  obtain ⟨json, hj⟩ := hx.json_ok proxies
  have hm : ∃ hello, client.makeHello X tc proxies = .ok hello ∧ hello.version = protocolVersion ∧
      hello.token = client.authToken.getD "" ∧ hello.proxies = proxies ∧ hello.configHash = configHash X json ∧
      hello.totpCode = client.totpSecret.map (fun secret =>
        (Totp.ofSecret X.toTotpPrimitives secret).generate X.toTotpPrimitives tc) := by
    simp only [ReverseProxyClient.makeHello, hj]
    exact ⟨_, rfl, rfl, rfl, rfl, rfl, rfl⟩
  obtain ⟨hello, hm, hv, ht, hp, hh, hcode⟩ := hm
  have hsize := hc.size hello hm
  obtain ⟨data, hd⟩ := hx.serialize_ok (.clientHello hello) (hsize.trans_lt (by decide))
  have hl : data.length ≤ maxMessageSize := by rw [hx.serialize_length _ _ hd]; exact hsize
  refine ⟨hello, data, hm, hp, hd, hl, ?_, ?_⟩
  · simp only [ReverseProxyClient.sendHello, hm]
    exact writeTo_of_serialize hd hl
  · rw [firstFailing_eq_none]
    exact ⟨hv, by rw [ht]; exact hc.token, by rw [hcode]; exact totpValid_generate hc,
      ⟨json, by rw [hp]; exact hj, hh.symm⟩, by rw [hp]; exact hc.nonempty⟩

end GscFq.HandshakeLink
