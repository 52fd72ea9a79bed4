import GscFq.HandshakeReplies
import GscFq.ListenerOwnership

namespace GscFq.Sessions

open ByteStream HandleClient

variable {X : Externals} {srv : ReverseProxyServer}

def Greeted (X : Externals) (task : Task) (hello : ClientHello) : Prop :=
  ∃ rest, ControlMessage.readFrom X task.control = .ok (.clientHello hello) rest

def Passes (X : Externals) (srv : ReverseProxyServer) (task : Task) : Prop :=
  ∃ now hello, task.checkedAt = some now ∧ Greeted X task hello ∧ srv.firstFailing X now hello = none

def NamesFailure (X : Externals) (srv : ReverseProxyServer) (task : Task) (r : ServerHello) : Prop :=
  ∃ now hello, task.checkedAt = some now ∧ Greeted X task hello ∧ srv.firstFailing X now hello = some r.status

/-- The task has done something that the gate guards: it sent an `Ok`, came to bind ports, holds
listeners or stored a session. -/
def Opened (s : State) (t : TaskId) (task : Task) : Prop :=
  (∃ r ∈ task.sent, r.status = .ok) ∨ task.stage.phase = .binding ∨ task.stage.phase = .registered ∨
    task.spawned ≠ [] ∨ task.registeredAt ≠ none ∨
    ∃ id session, s.clients.lookup id = some session ∧ session.owner = t

structure Closed (task : Task) : Prop where
  spawned : task.spawned = []
  registeredAt : task.registeredAt = none

structure Waiting (task : Task) : Prop extends Closed task where
  stage : task.stage = .hello
  sent : task.sent = []
  checkedAt : task.checkedAt = none

structure Refused (X : Externals) (srv : ReverseProxyServer) (task : Task) : Prop extends Closed task where
  stage : ∃ e, task.stage = .returned (.error e)
  sent : task.sent = [] ∨ ∃ r, task.sent = [r] ∧ r.status ≠ .ok ∧ NamesFailure X srv task r

def Gated (X : Externals) (srv : ReverseProxyServer) (task : Task) : Prop :=
  Waiting task ∨ Refused X srv task ∨ (Passes X srv task ∧ task.stage ≠ .hello)

theorem Greeted.grow {task task' : Task} {hello : ClientHello} (h : Greeted X task hello)
    (hx : task.control.Extends task'.control) : Greeted X task' hello := by
  obtain ⟨rest, hr⟩ := h
  exact ControlMessage.readFrom_extends hx hr

theorem Passes.grow {task task' : Task} (h : Passes X srv task)
    (hx : task.control.Extends task'.control) (hc : task'.checkedAt = task.checkedAt) : Passes X srv task' := by
  obtain ⟨now, hello, hat, hg, hf⟩ := h
  exact ⟨now, hello, hc.trans hat, hg.grow hx, hf⟩

theorem afterHello_gated {task : Task} {now stamp : UInt64} {broken : Option IoError}
    {r : ReverseProxyServer.HandshakeResult} (hw : Waiting task)
    (h : srv.handshake X now stamp task.addr broken task.control = some r) :
    Refused X srv (afterHello task now r) ∨
      (Passes X srv (afterHello task now r) ∧ (afterHello task now r).stage ≠ .hello) := by
  have hctl : (afterHello task now r).control = task.control ∧
      (afterHello task now r).checkedAt = some now ∧ (afterHello task now r).stage ≠ .hello ∧
      (afterHello task now r).sent = r.sent := by
    unfold afterHello
    cases r.outcome <;> exact ⟨rfl, rfl, by simp, rfl⟩
  obtain ⟨hctl, hat, hne, hsent⟩ := hctl
  have hclosed : ∀ e, r.outcome = .error e → Closed (afterHello task now r) ∧
      ∃ e, (afterHello task now r).stage = .returned (.error e) := by
    intro e he
    unfold afterHello
    rw [he]
    exact ⟨⟨hw.spawned, hw.registeredAt⟩, e, rfl⟩
  unfold ReverseProxyServer.handshake at h
  cases hm : ControlMessage.readFrom X task.control with
  | pending => simp [hm] at h
  | err e =>
    simp only [hm, Option.some.injEq] at h
    subst h
    obtain ⟨hc, hs⟩ := hclosed e rfl
    exact Or.inl ⟨hc, hs, Or.inl hsent⟩
  | ok m rest =>
    cases m with
    | clientHello hello =>
      simp only [hm, Option.some.injEq] at h
      have hg : Greeted X (afterHello task now r) hello := ⟨rest, by rw [hctl]; exact hm⟩
      cases hf : srv.firstFailing X now hello with
      | none => exact Or.inr ⟨⟨now, hello, hat, hg, hf⟩, hne⟩
      | some status =>
        obtain ⟨⟨e, he⟩, hrep⟩ := ReverseProxyServer.answer_refused stamp task.addr broken hf
        rw [h] at he hrep
        obtain ⟨hc, hs⟩ := hclosed e he
        refine Or.inl ⟨hc, hs, ?_⟩
        rcases hrep with hnil | ⟨reply, hone, hst, hok⟩
        · exact Or.inl (hsent.trans hnil)
        · exact Or.inr ⟨reply, hsent.trans hone, hok, now, hello, hat, hg, by rw [hf, hst]⟩
    | serverHello | ping | pong =>
      simp only [hm, Option.some.injEq] at h
      subst h
      obtain ⟨hc, hs⟩ := hclosed _ rfl
      exact Or.inl ⟨hc, hs, Or.inl hsent⟩

theorem Refused.stuck {instant : ℕ} {task task' : Task} {eff : Effect} (hr : Refused X srv task) :
    ¬ Move X srv instant task task' eff := by
  obtain ⟨e, he⟩ := hr.stage
  intro hm
  cases hm with
  | input hrun hx => simp [he, Stage.phase] at hrun
  | hello hopen hres => simp [he] at hopen
  | bind hb ha | spawn hb ha => simp [he, Stage.phase] at hb
  | store hb | serve hb ha | leave hb => simp [he] at hb

theorem Waiting.move {instant : ℕ} {task task' : Task} {eff : Effect} (hw : Waiting task)
    (hm : Move X srv instant task task' eff) : eff = .none ∧ Gated X srv task' := by
  cases hm with
  | input hrun hx => exact ⟨rfl, Or.inl ⟨⟨hw.spawned, hw.registeredAt⟩, hw.stage, hw.sent, hw.checkedAt⟩⟩
  | hello hopen hres => exact ⟨rfl, Or.inr (afterHello_gated hw hres)⟩
  | bind hb ha | spawn hb ha => simp [hw.stage, Stage.phase] at hb
  | store hb | serve hb ha | leave hb => simp [hw.stage] at hb

theorem Passes.move {instant : ℕ} {task task' : Task} {eff : Effect} (hp : Passes X srv task)
    (hne : task.stage ≠ .hello) (hm : Move X srv instant task task' eff) :
    Passes X srv task' ∧ task'.stage ≠ .hello := by
  cases hm with
  | input hrun hx => exact ⟨hp.grow hx rfl, hne⟩
  | hello hopen hres => exact absurd hopen hne
  | store hb | leave hb => exact ⟨hp.grow (.refl _) rfl, by simp⟩
  | @bind stage hb ha | @spawn stage transport port hb ha | @serve requestAt stage hb ha =>
    refine ⟨hp.grow (.refl _) rfl, ?_⟩
    rintro rfl
    cases ha

def AllGated (X : Externals) (srv : ReverseProxyServer) (s : State) : Prop :=
  ∀ (t : TaskId) (task : Task), s.tasks[t]? = some task → Gated X srv task

theorem start_waiting (addr : SocketAddr) : Waiting (.start addr) := ⟨⟨rfl, rfl⟩, rfl, rfl, rfl⟩

theorem Gated.follows {now : ℕ} {task task' : Task} (hg : Gated X srv task) (h : Follows X srv now task task') :
    Gated X srv task' := by
  rcases h with rfl | ⟨new, eff, spawned, hm, rfl, hnone⟩
  · exact hg
  · rcases hg with hw | hr | ⟨hp, hne⟩
    · obtain ⟨he, hg⟩ := hw.move hm
      rw [hnone he]
      exact hg
    · exact absurd hm hr.stuck
    · obtain ⟨hp', hne'⟩ := hp.move hne hm
      exact Or.inr (Or.inr ⟨hp'.grow (.refl _) rfl, hne'⟩)

theorem run_gated {es : List Event} {s : State} (h : run X srv es = some s) : AllGated X srv s :=
  run_tasks (fun addr => Or.inl (start_waiting addr)) (fun _ _ _ hg hf => hg.follows hf) h

end GscFq.Sessions
