import GscFq.PortAllocation

namespace GscFq.Sessions

open HandleClient

variable {X : Externals} {srv : ReverseProxyServer}

/-- A task binds ports, or has registered, only after an `Ok` reply, and the reply lists the ports
of its configurations. -/
structure Answered (task : Task) : Prop where
  ports : ∀ r ∈ task.sent, r.status = .ok → r.allowedPorts = task.proxies.map (·.serverPort)
  ok : task.stage.phase = .binding ∨ task.stage.phase = .registered → ∃ r ∈ task.sent, r.status = .ok

theorem afterHello_answered {task : Task} {now stamp : UInt64} {broken : Option IoError}
    {r : ReverseProxyServer.HandshakeResult}
    (h : srv.handshake X now stamp task.addr broken task.control = some r) : Answered (afterHello task now r) := by
  rcases ReverseProxyServer.handshake_sent h with ⟨hello, rest, reply, -, ho, hs, hok, hports⟩ | ⟨⟨e, ho⟩, hno⟩
  · have hafter : (afterHello task now r).sent = [reply] ∧ (afterHello task now r).proxies = hello.proxies := by
      simp [afterHello, ho, hs]
    constructor
    · intro r' hr' _
      rw [hafter.1, List.mem_singleton] at hr'
      rw [hr', hafter.2, hports]
    · intro _
      exact ⟨reply, by rw [hafter.1]; exact List.mem_singleton_self reply, hok⟩
  · have hafter : (afterHello task now r).sent = r.sent ∧
        (afterHello task now r).stage = .returned (.error e) := by simp [afterHello, ho]
    constructor
    · intro r' hr' hst
      rw [hafter.1] at hr'
      exact absurd hst (hno r' hr')
    · intro hp
      simp [hafter.2, Stage.phase] at hp

theorem Answered.move {instant : ℕ} {task task' : Task} {eff : Effect} (ha : Answered task)
    (hm : Move X srv instant task task' eff) : Answered task' := by
  cases hm with
  | input => exact ⟨ha.ports, ha.ok⟩
  | hello hopen hres => exact afterHello_answered hres
  | bind hb hn | spawn hb hn => exact ⟨ha.ports, fun _ => ha.ok (Or.inl hb)⟩
  | store hb => exact ⟨ha.ports, fun _ => ha.ok (Or.inl (by rw [hb]; rfl))⟩
  | serve hb hn => exact ⟨ha.ports, fun _ => ha.ok (Or.inr (by rw [hb]; rfl))⟩
  | leave hb => exact ⟨ha.ports, fun _ => ha.ok (Or.inr (by rw [hb]; rfl))⟩

def SaidOk (task : Task) : Prop := task.stage ≠ .hello ∧ ∃ r ∈ task.sent, r.status = .ok

theorem SaidOk.move {instant : ℕ} {task task' : Task} {eff : Effect} (ho : SaidOk task)
    (hm : Move X srv instant task task' eff) : SaidOk task' := by
  obtain ⟨hne, hok⟩ := ho
  cases hm with
  | input => exact ⟨hne, hok⟩
  | hello hopen hres => exact absurd hopen hne
  | store hb | leave hb => exact ⟨by simp, hok⟩
  | @bind stage hb ha | @spawn stage transport port hb ha | @serve requestAt stage hb ha =>
    refine ⟨?_, hok⟩
    rintro rfl
    cases ha

end GscFq.Sessions
