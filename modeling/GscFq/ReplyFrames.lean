import GscFq.HandshakeReplies
import GscFq.Framing

namespace GscFq.ReverseProxyServer

open ByteStream ControlMessage

variable {X : Externals} {srv : ReverseProxyServer}

theorem refusal_size (status : HandshakeStatus) {message : String} (h : message.length ≤ 100) :
    encodedSize (.serverHello ⟨protocolVersion, status, message, [], none⟩) ≤ maxMessageSize := by
  have hm := utf8_length message
  have hmax : maxMessageSize = 16777216 := rfl
  simp only [encodedSize, textSize, listSize, optionSize, List.map_nil, List.sum_nil]
  omega

theorem checkHello_refuse_size {now stamp : UInt64} {addr : SocketAddr} {hello : ClientHello} {r : ServerHello}
    {e : AppError} (h : srv.checkHello X now stamp addr hello = .refuse r e) :
    encodedSize (.serverHello r) ≤ maxMessageSize := by
  have hversion : ("Unsupported version: " ++ toString hello.version.toNat).length ≤ 100 := by
    have hv := u8_length hello.version
    have hl : "Unsupported version: ".length = 21 := rfl
    rw [String.length_append]
    omega
  unfold checkHello refusal at h
  split at h
  · cases h
    exact refusal_size _ hversion
  · split at h
    · cases h
      exact refusal_size _ (by decide)
    · split at h
      · cases h
        exact refusal_size _ (by decide)
      · split at h
        · cases h
        · split at h
          · cases h
            exact refusal_size _ (by decide)
          · split at h
            · cases h
              exact refusal_size _ (by decide)
            · cases h

def Framed (X : Externals) (r : ServerHello) (wire : Bytes) : Prop :=
  ∃ data, X.bincodeSerialize (.serverHello r) = .ok data ∧ data.length ≤ maxMessageSize ∧
    wire = toBe 4 data.length ++ data

theorem Framed.ne_nil {r : ServerHello} {wire : Bytes} (h : Framed X r wire) : wire ≠ [] := by
  obtain ⟨data, -, -, rfl⟩ := h
  apply List.length_pos_iff.mp
  rw [List.length_append, toBe_length]
  omega

theorem reply_framed (hx : X.Lawful) (broken : Option IoError) {r : ServerHello}
    (hr : encodedSize (.serverHello r) ≤ maxMessageSize) (outcome : Except AppError (List ReverseProxyConfig)) :
    ((reply X broken r outcome).sent = [] ∧ (reply X broken r outcome).wire = [] ∧
        ∃ e, (reply X broken r outcome).outcome = .error e) ∨
      ((reply X broken r outcome).sent = [r] ∧ Framed X r (reply X broken r outcome).wire) := by
  obtain ⟨data, hd⟩ := hx.serialize_ok _ (hr.trans_lt (by decide))
  have hl : data.length ≤ maxMessageSize := by rw [hx.serialize_length _ _ hd]; exact hr
  have hw := writeTo_of_serialize hd hl
  unfold reply send
  cases broken with
  | some e => exact Or.inl (by simp [hw])
  | none => exact Or.inr (by simpa only [hw, true_and] using ⟨data, hd, hl, rfl⟩)

theorem handshake_framed (hx : X.Lawful) {now stamp : UInt64} {addr : SocketAddr} {broken : Option IoError}
    {control : Stream IoError} {r : HandshakeResult}
    (h : srv.handshake X now stamp addr broken control = some r) :
    (r.sent = [] ∧ r.wire = [] ∧ ∃ e, r.outcome = .error e) ∨ ∃ reply, r.sent = [reply] ∧ Framed X reply r.wire := by
  unfold handshake at h
  cases hm : readFrom X control with
  | pending => simp [hm] at h
  | err e =>
    simp only [hm, Option.some.injEq] at h
    subst h
    exact Or.inl ⟨rfl, rfl, e, rfl⟩
  | ok m rest =>
    cases m with
    | clientHello hello =>
      simp only [hm, Option.some.injEq] at h
      subst h
      unfold answer
      cases hc : srv.checkHello X now stamp addr hello with
      | fail e => exact Or.inl ⟨rfl, rfl, e, rfl⟩
      | refuse reply e =>
        exact (reply_framed hx broken (checkHello_refuse_size hc) _).imp id (fun h => ⟨reply, h⟩)
      | accept reply =>
        have hspec := checkHello_spec X srv now stamp addr hello
        rw [hc] at hspec
        obtain ⟨-, rfl⟩ := hspec
        -- what was decoded from a frame takes no more bytes than the frame had
        obtain ⟨lenBytes, data, -, -, -, hmax, hd⟩ := readFrom_bytes hm
        have hfit := okReply_fits ((hx.deserialize_size _ _ hd).trans hmax) stamp addr
        exact (reply_framed hx broken hfit _).imp id (fun h => ⟨_, h⟩)
    | serverHello | ping | pong =>
      simp only [hm, Option.some.injEq] at h
      subst h
      exact Or.inl ⟨rfl, rfl, _, rfl⟩

end GscFq.ReverseProxyServer
