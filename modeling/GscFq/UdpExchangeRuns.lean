import GscFq.RoutingRuns
import GscFq.UdpExchangeTurns
import GscFq.UdpResponses

namespace GscFq.UdpExchange

open ByteStream HandleClient GscFq.Lists Routing Tunnel

variable {configs : List ReverseProxyConfig}

/-- What the loop reads as one response. -/
def frame (response : Bytes) : Bytes := be16 (UInt16.ofNat response.length) ++ response

/-- What a client task for `data` has done: nothing, or it sent `data` to the first entry of the port
and wrote what came back to the socket it sent from. -/
def Exchanged (configs : List ReverseProxyConfig) (port : UInt16) (data : Bytes) (task : ClientTunnels.Task) : Prop :=
  ∀ o, task.outcome = some o → o.result.isSome = true ∧ ((o.traffic = [] ∧ o.written = []) ∨
    ∃ target, ClientTunnels.FirstEntry configs port target ∧ o.traffic = [.sendTo (localAddr target) data] ∧
      (o.written = [] ∨ ∃ d, task.net.recvUdp = .datagram d ∧ o.written = d.take 65535))

structure Answered (configs : List ReverseProxyConfig) (t : TunnelStream) (data : Bytes) (peer : SocketAddr)
    (r : Reader) (replies : List Datagram) : Prop where
  exchanged : Exchanged configs t.request.targetPort data t.client
  arrived : r.arrived <+: written t
  read : r.arrived = r.responses.flatMap frame ++ r.unread
  replies : replies.Sublist (r.responses.map (fun d => ⟨t.request.targetPort, peer, d⟩))

def State.repliesOf (s : State) (k : ℕ) : List Datagram := (s.sent.filter (·.stream = k)).map (·.datagram)

theorem responseRound_frame {s rest : Stream IoError} {response : Bytes}
    (h : responseRound s = some (response, rest)) : s.bytes = frame response ++ rest.bytes := by
  unfold responseRound at h
  cases h₁ : readExact 2 s with
  | pending => simp [h₁] at h
  | err e => simp [h₁] at h
  | ok lenBytes s₁ =>
    simp only [h₁] at h
    cases h₂ : readExact (ofBe lenBytes) s₁ with
    | pending => simp [h₂] at h
    | err e => simp [h₂] at h
    | ok data s₂ =>
      simp only [h₂, Option.some.injEq, Prod.mk.injEq] at h
      obtain ⟨rfl, rfl⟩ := h
      obtain ⟨hl₁, hb₁, -⟩ := readExact_ok h₁
      obtain ⟨hl₂, hb₂, -⟩ := readExact_ok h₂
      obtain ⟨hi, lo, rfl⟩ := List.length_eq_two.mp hl₁
      have hlen : UInt16.ofNat data.length = ofBe16 hi lo := by
        rw [hl₂, ofBe_pair, UInt16.ofNat_toNat]
      rw [hb₁, hb₂, frame, hlen, be16_ofBe16, List.append_assoc]

theorem parseOrder_grow {bytes more : Bytes} {order : Order} (h : parseOrder configs bytes = some order) :
    (∃ target rest, order = .tcp target rest ∧ parseOrder configs (bytes ++ more) = some (.tcp target (rest ++ more))) ∨
      ∃ target payload, order = .udp target payload ∧
        parseOrder configs (bytes ++ more) = some (.udp target payload) := by
  obtain ⟨msgType, reserved, hi, lo, rest, target, rfl, hl, ⟨rfl, rfl⟩ | ⟨rfl, payload, hp, rfl⟩⟩ :=
    ClientTunnels.parseOrder_header h
  · exact Or.inl ⟨target, rest, rfl, by simp [parseOrder, hl]⟩
  · exact Or.inr ⟨target, payload, rfl, by simp [parseOrder, hl, ClientTunnels.udpPayload_append hp more]⟩

theorem parseOrder_of_prefix {port : UInt16} {data bytes more : Bytes} {order : Order} (hd : data.length ≤ 65535)
    (hb : bytes <+: udpRequest port data ++ more) (h : parseOrder configs bytes = some order) :
    ∃ target, lookup configs port = some target ∧ order = .udp target data := by
  obtain ⟨tail, ht⟩ := hb
  have hfull := @parseOrder_udp configs port data hd more
  rw [← ht] at hfull
  rcases @parseOrder_grow configs bytes tail order h with ⟨target, rest, -, hg⟩ | ⟨target, payload, rfl, hg⟩
  · rw [hg] at hfull
    obtain ⟨c, -, hc⟩ := Option.map_eq_some_iff.mp hfull.symm
    exact nomatch hc
  · rw [hg] at hfull
    obtain ⟨c, hc, he⟩ := Option.map_eq_some_iff.mp hfull.symm
    obtain ⟨rfl, rfl⟩ := Order.udp.inj he
    exact ⟨c, hc, rfl⟩

theorem handleTunnelStream_exchanged {port : UInt16} {data more : Bytes} (hd : data.length ≤ 65535)
    (task : ClientTunnels.Task) (hb : task.stream.bytes <+: udpRequest port data ++ more)
    (hw : handleTunnelStream configs task.net task.stream ≠ .waiting) :
    Exchanged configs port data
      { task with outcome := some (handleTunnelStream configs task.net task.stream) } := by
  intro o ho
  obtain rfl := Option.some.inj ho
  have hspec := handleTunnelStream_spec configs task.net task.stream
  cases hp : parseOrder configs task.stream.bytes with
  | none =>
    rw [hp] at hspec
    rcases hspec with ⟨he, -⟩ | ⟨e, he⟩
    · exact absurd he hw
    · rw [he]
      exact ⟨rfl, Or.inl ⟨rfl, rfl⟩⟩
  | some order =>
    obtain ⟨target, hl, rfl⟩ := parseOrder_of_prefix hd hb hp
    rw [hp] at hspec
    simp only at hspec
    have hfirst := ClientTunnels.lookup_firstEntry hl
    rw [hspec, forwardUdp]
    cases task.net.bindUdp with
    | some e => exact ⟨rfl, Or.inl ⟨rfl, rfl⟩⟩
    | none =>
      cases task.net.sendUdp with
      | some e => exact ⟨rfl, Or.inr ⟨target, hfirst, rfl, Or.inl rfl⟩⟩
      | none =>
        refine ⟨rfl, Or.inr ⟨target, hfirst, rfl, ?_⟩⟩
        simp only [udpAnswer]
        cases hr : task.net.recvUdp with
        | datagram d =>
          cases task.net.writeBack with
          | some e => exact Or.inl rfl
          | none => exact Or.inr ⟨d, rfl, rfl⟩
        | failed | timeout => exact Or.inl rfl

/-- A step of a client task: what it has done stays when it is done, and its network is its own. -/
theorem Exchanged.step {port : UInt16} {data more : Bytes} (hd : data.length ≤ 65535) {task task' : ClientTunnels.Task}
    {e : ClientTunnels.Event} (hb : task.stream.bytes <+: udpRequest port data ++ more)
    (h : Exchanged configs port data task) (hstep : task.step configs e = some task') :
    Exchanged configs port data task' ∧ (task'.outcome = task.outcome ∨ task.outcome = none) := by
  cases e with
  | recv i chunk | close i e =>
    simp only [ClientTunnels.Task.step] at hstep
    split at hstep
    · cases hstep
      exact ⟨h, Or.inl rfl⟩
    · cases hstep
  | localSends i bytes | relayEnds i =>
    cases hstep
    exact ⟨h, Or.inl rfl⟩
  | poll i =>
    simp only [ClientTunnels.Task.step, ClientTunnels.Task.poll] at hstep
    split at hstep
    · rename_i hc
      cases hstep
      refine ⟨handleTunnelStream_exchanged hd task hb hc.2, Or.inr ?_⟩
      cases ho : task.outcome with
      | none => rfl
      | some o =>
        obtain ⟨r, hr⟩ := Option.isSome_iff_exists.mp (h o ho).1
        simp [ho, hr] at hc
    · cases hstep
  | inbound net | stop => cases hstep

theorem sent_prefix {t : TunnelStream} {bytes : Bytes} (h : Sent t bytes) :
    ∃ more, bytes <+: openFrame t.request ++ more := by
  unfold Sent at h
  split at h
  · exact ⟨[], by simp [h]⟩
  · obtain ⟨data, rfl⟩ := h
    exact ⟨data, List.prefix_refl _⟩
  · obtain ⟨n, -, rfl⟩ := h
    exact ⟨[], by rw [List.append_nil]; exact List.take_prefix _ _⟩

end GscFq.UdpExchange
