import GscFq.GateInvariant
import GscFq.HandshakeLink
import GscFq.ReplyFrames

namespace GscFq.HandshakeLink

open ByteStream ControlMessage HandleClient ReverseProxyServer Sessions

variable {X : Externals} {srv : ReverseProxyServer} {client : ReverseProxyClient}
  {proxies : List ReverseProxyConfig} {addr : SocketAddr}

def Output (X : Externals) (task : Task) : Prop :=
  (task.sent = [] ∧ task.wire = [] ∧ (task.stage.phase = .opening ∨ task.stage.phase = .returned)) ∨
    (task.stage.phase ≠ .opening ∧ ∃ r, task.sent = [r] ∧ Framed X r task.wire)

theorem afterHello_output (hx : X.Lawful) {task : Task} {now stamp : UInt64} {broken : Option IoError}
    {r : HandshakeResult} (h : srv.handshake X now stamp task.addr broken task.control = some r) :
    Output X (afterHello task now r) := by
  have hfields : (afterHello task now r).sent = r.sent ∧ (afterHello task now r).wire = r.wire ∧
      (afterHello task now r).stage.phase ≠ .opening := by
    unfold afterHello
    cases r.outcome <;> exact ⟨rfl, rfl, by simp [Stage.phase]⟩
  obtain ⟨hsent, hwire, hphase⟩ := hfields
  rcases handshake_framed hx h with ⟨hs, hw, e, he⟩ | ⟨reply, hs, hf⟩
  · refine Or.inl ⟨hsent.trans hs, hwire.trans hw, Or.inr ?_⟩
    unfold afterHello
    rw [he]
    rfl
  · exact Or.inr ⟨hphase, reply, hsent.trans hs, hwire ▸ hf⟩

theorem Output.move (hx : X.Lawful) {instant : ℕ} {task task' : Task} {eff : Effect} (ho : Output X task)
    (hm : Move X srv instant task task' eff) :
    Output X task' ∧ ((task'.sent = task.sent ∧ task'.wire = task.wire) ∨ (task.sent = [] ∧ task.wire = [])) := by
  have hlate : task.stage.phase = .binding ∨ task.stage.phase = .registered →
      ∃ r, task.sent = [r] ∧ Framed X r task.wire := by
    intro hp
    rcases ho with ⟨-, -, hp' | hp'⟩ | h
    · simp [hp'] at hp
    · simp [hp'] at hp
    · exact h.2
  cases hm with
  | input hrun hx => exact ⟨ho, Or.inl ⟨rfl, rfl⟩⟩
  | hello hopen hres =>
    refine ⟨afterHello_output hx hres, Or.inr ?_⟩
    rcases ho with ⟨hs, hw, -⟩ | ⟨hp, -⟩
    · exact ⟨hs, hw⟩
    · simp [hopen, Stage.phase] at hp
  | bind hb ha | spawn hb ha => exact ⟨Or.inr ⟨by simp [ha], hlate (Or.inl hb)⟩, Or.inl ⟨rfl, rfl⟩⟩
  | store hb => exact ⟨Or.inr ⟨by simp [Stage.phase], hlate (Or.inl (by rw [hb]; rfl))⟩, Or.inl ⟨rfl, rfl⟩⟩
  | serve hb ha => exact ⟨Or.inr ⟨by simp [ha], hlate (Or.inr (by rw [hb]; rfl))⟩, Or.inl ⟨rfl, rfl⟩⟩
  | leave hb => exact ⟨Or.inr ⟨by simp [Stage.phase], hlate (Or.inr (by rw [hb]; rfl))⟩, Or.inl ⟨rfl, rfl⟩⟩

theorem Gated.move {instant : ℕ} {task task' : Task} {eff : Effect} (hg : Gated X srv task)
    (hm : Move X srv instant task task' eff) : Gated X srv task' := by
  rcases hg with hw | hr | ⟨hp, hne⟩
  · exact (hw.move hm).2
  · exact absurd hm hr.stuck
  · exact Or.inr (Or.inr (hp.move hne hm))

structure Linked (X : Externals) (srv : ReverseProxyServer) (s : State) : Prop where
  gated : Gated X srv s.server
  output : Output X s.server
  arrived : ∃ tail, s.inbox.bytes ++ s.toClient = s.server.wire ++ tail ∧ (s.server.wire = [] → tail = [])
  agreed : s.client = .done (.ok ()) → ∃ r ∈ s.server.sent, r.status = .ok

theorem push_bytes (s : Stream IoError) (chunk : Bytes) : (s.push chunk).bytes = s.bytes ++ chunk := by
  simp [Stream.push, Stream.bytes]

theorem readReply_ok (hx : X.Lawful) {s : State} (hl : Linked X srv s)
    (h : ReverseProxyClient.readReply X s.inbox = some (.ok ())) : ∃ r ∈ s.server.sent, r.status = .ok := by
  obtain ⟨tail, htail, hnil⟩ := hl.arrived
  unfold ReverseProxyClient.readReply at h
  cases hm : readFrom X s.inbox with
  | pending => simp [hm] at h
  | err e => simp [hm] at h
  | ok m rest =>
    cases m with
    | serverHello reply =>
      simp only [hm] at h
      split at h
      · rename_i hok
        rcases hl.output with ⟨-, hw, -⟩ | ⟨-, r, hs, data, hd, hlen, hw⟩
        · obtain ⟨lenBytes, data, hb, h4, -⟩ := readFrom_bytes hm
          rw [hw, hnil hw, hb] at htail
          have hlen := congrArg List.length htail
          simp only [List.length_append, h4, List.length_nil] at hlen
          omega
        · rw [hw] at htail
          obtain ⟨he, -⟩ := readFrom_of_frame hlen (hx.deserialize_serialize _ _ hd) htail hm
          injection he with he
          exact ⟨r, by simp [hs], by rw [← he]; exact hok⟩
      · simp at h
    | clientHello | ping | pong => simp [hm] at h

theorem Linked.server {s : State} {task' : Task} {instant : ℕ} {eff : Effect} (hx : X.Lawful) (hl : Linked X srv s)
    (hm : Move X srv instant s.server task' eff) :
    Linked X srv { s with server := task', toClient := s.toClient ++ task'.wire.drop s.server.wire.length } := by
  obtain ⟨tail, htail, hnil⟩ := hl.arrived
  obtain ⟨ho, hwire⟩ := hl.output.move hx hm
  refine ⟨Gated.move hl.gated hm, ho, ?_, ?_⟩
  · rcases hwire with ⟨-, hw⟩ | ⟨-, hw⟩
    · exact ⟨tail, by simp [hw, htail], hw ▸ hnil⟩
    · rw [hw, hnil hw] at htail
      refine ⟨[], ?_, fun _ => rfl⟩
      rw [hw, ← List.append_assoc, htail]
      simp
  · intro hc
    obtain ⟨r, hr, hok⟩ := hl.agreed hc
    rcases hwire with ⟨hs, -⟩ | ⟨hs, -⟩
    · exact ⟨r, hs ▸ hr, hok⟩
    · simp [hs] at hr

theorem Linked.input {s : State} {task' : Task} {instant : ℕ} {eff : Effect} (hx : X.Lawful) (hl : Linked X srv s)
    (hm : Move X srv instant s.server task' eff) (hw : task'.wire = s.server.wire) (toServer : Bytes) :
    Linked X srv { s with server := task', toServer := toServer } := by
  have h := hl.server hx hm
  simp only [hw, List.drop_length, List.append_nil] at h
  exact ⟨h.gated, h.output, h.arrived, h.agreed⟩

theorem input_wire {instant : ℕ} {task task' : Task} {e : HandleClient.Event} {eff : Effect} (he : isOwn e = false)
    (h : HandleClient.step X srv instant task e = some (task', eff)) : task'.wire = task.wire := by
  cases e with
  | recv | close =>
    simp only [HandleClient.step] at h
    split at h
    · cases h
      rfl
    · cases h
  | hello | bindTcp | bindUdp | store | request | inbound | disconnect | leave => cases he

theorem Linked.step {s s' : State} {e : Event} (hx : X.Lawful) (hl : Linked X srv s)
    (h : step X srv client proxies s e = some s') : Linked X srv s' := by
  cases e with
  | hello now broken =>
    simp only [HandshakeLink.step] at h
    split at h
    · cases h
      unfold clientHello
      split <;> exact ⟨hl.gated, hl.output, hl.arrived, by simp⟩
    · cases h
  | deliverServer n =>
    simp only [HandshakeLink.step] at h
    split at h
    · obtain ⟨⟨task', eff⟩, hp, rfl⟩ := Option.map_eq_some_iff.mp h
      exact hl.input hx (step_move hp) (input_wire rfl hp) _
    · cases h
  | server instant e =>
    simp only [HandshakeLink.step] at h
    split at h
    · obtain ⟨⟨task', eff⟩, hp, rfl⟩ := Option.map_eq_some_iff.mp h
      exact hl.server hx (step_move hp)
    · cases h
  | deliverClient n =>
    simp only [HandshakeLink.step] at h
    split at h
    · cases h
      obtain ⟨tail, htail, hnil⟩ := hl.arrived
      refine ⟨hl.gated, hl.output, ⟨tail, ?_, hnil⟩, hl.agreed⟩
      rw [push_bytes, List.append_assoc, List.take_append_drop, htail]
    · cases h
  | reply =>
    simp only [HandshakeLink.step] at h
    split at h
    · obtain ⟨r, hr, rfl⟩ := Option.map_eq_some_iff.mp h
      refine ⟨hl.gated, hl.output, hl.arrived, ?_⟩
      intro hc
      injection hc with hc
      exact readReply_ok (s := s) hx hl (hc ▸ hr)
    · cases h
  | cutServer e =>
    simp only [HandshakeLink.step] at h
    obtain ⟨⟨task', eff⟩, hp, rfl⟩ := Option.map_eq_some_iff.mp h
    exact hl.input hx (step_move hp) (input_wire rfl hp) s.toServer
  | cutClient e =>
    simp only [HandshakeLink.step] at h
    split at h
    · cases h
      exact ⟨hl.gated, hl.output, hl.arrived, hl.agreed⟩
    · cases h
  | clientMux bytes =>
    simp only [HandshakeLink.step] at h
    split at h
    · cases h
      exact ⟨hl.gated, hl.output, hl.arrived, hl.agreed⟩
    · cases h
  | serverMux bytes =>
    simp only [HandshakeLink.step] at h
    split at h
    · rename_i hserving
      cases h
      obtain ⟨tail, htail, -⟩ := hl.arrived
      refine ⟨hl.gated, hl.output, ⟨tail ++ bytes, by rw [← List.append_assoc, htail, List.append_assoc], ?_⟩,
        hl.agreed⟩
      intro hw
      rcases hl.output with ⟨-, -, hp | hp⟩ | ⟨-, r, -, hf⟩
      · simp [hserving, Stage.phase] at hp
      · simp [hserving, Stage.phase] at hp
      · exact absurd hw hf.ne_nil
    · cases h

theorem init_linked (addr : SocketAddr) : Linked X srv (init addr) :=
  ⟨Or.inl (start_waiting addr), Or.inl ⟨rfl, rfl, Or.inl rfl⟩, ⟨[], rfl, fun _ => rfl⟩, by simp [init]⟩

theorem run_linked (hx : X.Lawful) {es : List Event} {s : State}
    (h : Transitions.run (step X srv client proxies) (init addr) es = some s) : Linked X srv s :=
  Transitions.run_invariant h (init_linked addr) (fun _ _ _ hl he => hl.step hx he)

theorem sent_ok_passes {task : Task} (hg : Gated X srv task) (h : ∃ r ∈ task.sent, r.status = .ok) :
    Passes X srv task := by
  obtain ⟨r, hr, hok⟩ := h
  rcases hg with hw | href | ⟨hp, -⟩
  · simp [hw.sent] at hr
  · rcases href.sent with hnil | ⟨r', hone, hne, -⟩
    · simp [hnil] at hr
    · rw [hone, List.mem_singleton] at hr
      exact absurd (hr ▸ hok) hne
  · exact hp

end GscFq.HandshakeLink
