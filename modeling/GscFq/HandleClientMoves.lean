import GscFq.HandleClient

namespace GscFq

open ByteStream

namespace HandleClient

inductive Phase where
  | opening
  | binding
  | registered
  | returned
  deriving DecidableEq

def Stage.phase : Stage → Phase
  | .hello => .opening
  | .bindTcp _ => .binding
  | .bindUdp _ _ => .binding
  | .serving => .registered
  | .leaving => .registered
  | .returned _ => .returned

inductive Move (X : Externals) (srv : ReverseProxyServer) (instant : ℕ) : Task → Task → Effect → Prop where
  | input {task : Task} {control : Stream IoError} (running : task.stage.phase ≠ .returned)
      (grown : task.control.Extends control) : Move X srv instant task { task with control := control } .none
  | hello {task : Task} {now stamp : UInt64} {broken : Option IoError}
      {r : ReverseProxyServer.HandshakeResult} (opening : task.stage = .hello)
      (result : srv.handshake X now stamp task.addr broken task.control = some r) :
      Move X srv instant task (afterHello task now r) .none
  | bind {task : Task} {stage : Stage} (before : task.stage.phase = .binding) (after : stage.phase = .binding) :
      Move X srv instant task { task with stage := stage } .none
  | spawn {task : Task} {stage : Stage} {transport : Transport} {port : UInt16}
      (before : task.stage.phase = .binding) (after : stage.phase = .binding) :
      Move X srv instant task { task with stage := stage } (.spawn transport port)
  | store {task : Task} (before : task.stage = .bindTcp []) :
      Move X srv instant task { task with stage := .serving, registeredAt := some instant } .insert
  | serve {task : Task} {requestAt : Option ℕ} {stage : Stage} (before : task.stage = .serving)
      (after : stage.phase = .registered) :
      Move X srv instant task { task with stage := stage, requestAt := requestAt } .none
  | leave {task : Task} (before : task.stage = .leaving) :
      Move X srv instant task { task with stage := .returned (.ok ()) } .remove

theorem isReturned_phase (stage : Stage) : stage.isReturned = false ↔ stage.phase ≠ .returned := by
  cases stage <;> simp [Stage.isReturned, Stage.phase]

theorem push_extends {s : Stream IoError} (h : s.ending = none) (chunk : Bytes) : s.Extends (s.push chunk) :=
  ⟨[chunk], rfl, fun e he => by rw [h] at he; cases he⟩

theorem close_extends {s : Stream IoError} (h : s.ending = none) (e : IoError) :
    s.Extends { s with ending := some e } :=
  ⟨[], by simp, fun e' he => by rw [h] at he; cases he⟩

theorem step_move {X : Externals} {srv : ReverseProxyServer} {instant : ℕ} {task task' : Task} {e : Event}
    {eff : Effect} (h : step X srv instant task e = some (task', eff)) : Move X srv instant task task' eff := by
  cases e with
  | recv chunk =>
    simp only [step] at h
    split at h
    · rename_i hc
      cases h
      exact .input ((isReturned_phase _).mp hc.1) (push_extends hc.2 chunk)
    · cases h
  | close e =>
    simp only [step] at h
    split at h
    · rename_i hc
      cases h
      exact .input ((isReturned_phase _).mp hc.1) (close_extends hc.2 e)
    · cases h
  | hello now stamp broken =>
    simp only [step] at h
    split at h
    · rename_i hs
      obtain ⟨r, hr, he⟩ := Option.map_eq_some_iff.mp h
      cases he
      exact .hello hs hr
    · cases h
  | bindTcp bound =>
    simp only [step] at h
    split at h
    · rename_i hs
      cases bound <;> cases h
      · exact .bind (by rw [hs]; rfl) rfl
      · exact .spawn (by rw [hs]; rfl) rfl
    · cases h
  | bindUdp bound =>
    simp only [step] at h
    split at h
    · rename_i hs
      cases bound <;> cases h
      · exact .bind (by rw [hs]; rfl) rfl
      · exact .spawn (by rw [hs]; rfl) rfl
    · cases h
  | store =>
    simp only [step] at h
    split at h
    · rename_i hs
      cases h
      exact .store hs
    · cases h
  | request opened =>
    simp only [step] at h
    split at h
    · rename_i hs
      cases h
      exact .serve hs (show task.stage.phase = .registered by rw [hs]; rfl)
    · cases h
  | inbound =>
    simp only [step] at h
    split at h
    · rename_i hs
      cases h
      exact .serve hs (show task.stage.phase = .registered by rw [hs]; rfl)
    · cases h
  | disconnect =>
    simp only [step] at h
    split at h
    · rename_i hs
      cases h
      exact .serve hs (show Stage.leaving.phase = .registered from rfl)
    · cases h
  | leave =>
    simp only [step] at h
    split at h
    · rename_i hs
      cases h
      exact .leave hs
    · cases h

theorem step_insert {X : Externals} {srv : ReverseProxyServer} {instant : ℕ} {task task' : Task} {e : Event}
    (h : step X srv instant task e = some (task', .insert)) : e = .store := by
  cases e with
  | store => rfl
  | hello now stamp broken =>
    simp only [step] at h
    split at h
    · obtain ⟨r, -, he⟩ := Option.map_eq_some_iff.mp h
      cases he
    · cases h
  | bindTcp bound | bindUdp bound =>
    simp only [step] at h
    split at h
    · cases bound <;> cases h
    · cases h
  | recv | close | request | inbound | disconnect | leave =>
    simp only [step] at h
    split at h <;> cases h

end HandleClient

end GscFq
