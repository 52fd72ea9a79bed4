import GscFq.Framing
import GscFq.ReplySize

namespace GscFq

open ByteStream ControlMessage

namespace ReverseProxyServer

variable {X : Externals} {srv : ReverseProxyServer} {now : UInt64}

theorem reply_cases (X : Externals) (broken : Option IoError) (r : ServerHello)
    (outcome : Except AppError (List ReverseProxyConfig)) :
    ((reply X broken r outcome).sent = [] ∧ ∃ e, (reply X broken r outcome).outcome = .error e) ∨
      ((reply X broken r outcome).sent = [r] ∧ (reply X broken r outcome).outcome = outcome) := by
  unfold reply
  cases send X broken r with
  | error e => exact Or.inl ⟨rfl, e, rfl⟩
  | ok bytes => exact Or.inr ⟨rfl, rfl⟩

theorem answer_refused (stamp : UInt64) (addr : SocketAddr) (broken : Option IoError) {hello : ClientHello}
    {status : HandshakeStatus} (h : srv.firstFailing X now hello = some status) :
    (∃ e, (srv.answer X now stamp addr broken hello).outcome = .error e) ∧
      ((srv.answer X now stamp addr broken hello).sent = [] ∨
        ∃ r, (srv.answer X now stamp addr broken hello).sent = [r] ∧ r.status = status ∧ r.status ≠ .ok) := by
  have hspec := checkHello_spec X srv now stamp addr hello
  unfold answer
  cases hc : srv.checkHello X now stamp addr hello with
  | fail e => exact ⟨⟨e, rfl⟩, Or.inl rfl⟩
  | accept r =>
    rw [hc] at hspec
    exact absurd (h.symm.trans hspec.1) (by simp)
  | refuse r e =>
    rw [hc] at hspec
    have hst : r.status = status := Option.some.inj (hspec.1.symm.trans h)
    rcases reply_cases X broken r (.error e) with ⟨hs, ho⟩ | ⟨hs, ho⟩
    · exact ⟨ho, Or.inl hs⟩
    · exact ⟨⟨e, ho⟩, Or.inr ⟨r, hs, hst, hspec.2⟩⟩

theorem answer_sent (stamp : UInt64) (addr : SocketAddr) (broken : Option IoError) (hello : ClientHello) :
    (∃ reply, (srv.answer X now stamp addr broken hello).outcome = .ok hello.proxies ∧
      (srv.answer X now stamp addr broken hello).sent = [reply] ∧ reply.status = .ok ∧
      reply.allowedPorts = hello.proxies.map (·.serverPort)) ∨
    ((∃ e, (srv.answer X now stamp addr broken hello).outcome = .error e) ∧
      ∀ reply ∈ (srv.answer X now stamp addr broken hello).sent, reply.status ≠ .ok) := by
  have hspec := checkHello_spec X srv now stamp addr hello
  unfold answer
  cases hc : srv.checkHello X now stamp addr hello with
  | fail e => exact Or.inr ⟨⟨e, rfl⟩, by simp⟩
  | accept r =>
    rw [hc] at hspec
    rcases reply_cases X broken r (.ok hello.proxies) with ⟨hs, ho⟩ | ⟨hs, ho⟩
    · exact Or.inr ⟨ho, by simp [hs]⟩
    · obtain ⟨-, rfl⟩ := hspec
      exact Or.inl ⟨_, ho, hs, rfl, rfl⟩
  | refuse r e =>
    rw [hc] at hspec
    rcases reply_cases X broken r (.error e) with ⟨hs, ho⟩ | ⟨hs, ho⟩
    · exact Or.inr ⟨ho, by simp [hs]⟩
    · exact Or.inr ⟨⟨e, ho⟩, by simpa [hs] using hspec.2⟩

theorem handshake_sent {stamp : UInt64} {addr : SocketAddr} {broken : Option IoError} {control : Stream IoError}
    {r : HandshakeResult} (h : srv.handshake X now stamp addr broken control = some r) :
    (∃ hello rest reply, readFrom X control = .ok (.clientHello hello) rest ∧ r.outcome = .ok hello.proxies ∧
      r.sent = [reply] ∧ reply.status = .ok ∧ reply.allowedPorts = hello.proxies.map (·.serverPort)) ∨
    ((∃ e, r.outcome = .error e) ∧ ∀ reply ∈ r.sent, reply.status ≠ .ok) := by
  unfold handshake at h
  cases hm : ControlMessage.readFrom X control with
  | pending => simp [hm] at h
  | err e =>
    simp only [hm, Option.some.injEq] at h
    subst h
    exact Or.inr ⟨⟨e, rfl⟩, by simp⟩
  | ok m rest =>
    cases m with
    | clientHello hello =>
      simp only [hm, Option.some.injEq] at h
      subst h
      rcases answer_sent stamp addr broken hello with ⟨reply, hreply⟩ | hrefused
      · exact Or.inl ⟨hello, rest, reply, rfl, hreply⟩
      · exact Or.inr hrefused
    | serverHello | ping | pong =>
      simp only [hm, Option.some.injEq] at h
      subst h
      exact Or.inr ⟨⟨_, rfl⟩, by simp⟩

theorem firstFailing_eq_none {hello : ClientHello} : srv.firstFailing X now hello = none ↔
    hello.version = protocolVersion ∧ srv.tokenValid hello.token = true ∧
      srv.totpValid X now hello.totpCode = true ∧
      (∃ json, X.jsonToString hello.proxies = .ok json ∧ configHash X json = hello.configHash) ∧
      hello.proxies ≠ [] := by
  have hjson : (X.jsonToString hello.proxies).toOption.map (configHash X) = some hello.configHash ↔
      ∃ json, X.jsonToString hello.proxies = .ok json ∧ configHash X json = hello.configHash := by
    cases X.jsonToString hello.proxies <;> simp [Except.toOption]
  unfold firstFailing
  rw [Option.map_eq_none_iff, List.find?_eq_none]
  simp [checks, hjson]

def AnswersOk (X : Externals) (srv : ReverseProxyServer) (now stamp : UInt64) (addr : SocketAddr)
    (broken : Option IoError) (hello : ClientHello) : Prop :=
  ∃ r ∈ (srv.answer X now stamp addr broken hello).sent, r.status = .ok

theorem AnswersOk.passes {stamp : UInt64} {addr : SocketAddr} {broken : Option IoError} {hello : ClientHello}
    (h : srv.AnswersOk X now stamp addr broken hello) : srv.firstFailing X now hello = none := by
  by_contra hne
  obtain ⟨status, hf⟩ := Option.ne_none_iff_exists'.mp hne
  obtain ⟨r, hr, hok⟩ := h
  rcases (answer_refused stamp addr broken hf).2 with hnil | ⟨r', hone, -, hno⟩
  · simp [hnil] at hr
  · rw [hone, List.mem_singleton] at hr
    exact hno (hr ▸ hok)

theorem answer_accepted (hx : X.Lawful) (stamp : UInt64) (addr : SocketAddr) {hello : ClientHello}
    (h : srv.firstFailing X now hello = none)
    (hfit : encodedSize (.serverHello (okReply stamp addr hello.proxies)) ≤ maxMessageSize) :
    ∃ bytes, writeTo X (.serverHello (okReply stamp addr hello.proxies)) = .ok bytes ∧
      srv.answer X now stamp addr none hello = ⟨[okReply stamp addr hello.proxies], bytes, .ok hello.proxies⟩ := by
  obtain ⟨data, hd⟩ := hx.serialize_ok _ (hfit.trans_lt (by decide))
  have hw := writeTo_of_serialize hd (by rw [hx.serialize_length _ _ hd]; exact hfit)
  refine ⟨_, hw, ?_⟩
  have hspec := checkHello_spec X srv now stamp addr hello
  unfold answer
  cases hc : srv.checkHello X now stamp addr hello with
  | fail e =>
    rw [hc] at hspec
    exact absurd h hspec
  | refuse r e =>
    rw [hc] at hspec
    exact absurd (h.symm.trans hspec.1) (by simp)
  | accept r =>
    rw [hc] at hspec
    obtain ⟨-, rfl⟩ := hspec
    simp only [reply, send, hw]

end ReverseProxyServer

end GscFq
