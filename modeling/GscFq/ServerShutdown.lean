import GscFq.BindAddress
import GscFq.ServerLoop

namespace GscFq

namespace Sessions

open HandleClient

variable {X : Externals} {srv : ReverseProxyServer}

def BindingLive (s : State) : Prop :=
  ∀ (t : TaskId) (task : Task), s.tasks[t]? = some task → task.stage.phase = .binding →
    ∀ l ∈ task.spawned, ∃ x, s.listeners[l]? = some x ∧ x.live = true

theorem Owned.not_binding {s : State} (hs : Owned s) {t : TaskId} {task : Task} (ht : s.tasks[t]? = some task)
    (hb : task.stage.phase = .binding) {id : ClientId} {session : ClientSession}
    (hlook : s.clients.lookup id = some session) : session.owner ≠ t := by
  rintro rfl
  obtain ⟨owner, ho, -, hreg, -⟩ := hs.entry id session hlook
  rw [ht] at ho
  cases ho
  rw [hb] at hreg
  cases hreg

theorem BindingLive.removeClient {s : State} (hs : Owned s) (hb : BindingLive s) (id : ClientId) :
    BindingLive (s.removeClient id) := by
  intro t task ht hphase l hl
  rw [removeClient_tasks] at ht
  obtain ⟨x, hx, hlive⟩ := hb t task ht hphase l hl
  exact ⟨x, removeClient_keeps hs ht (fun session hlook => hs.not_binding ht hphase hlook) hl hx, hlive⟩

theorem BindingLive.other {s : State} (hs : Owned s) (hb : BindingLive s) {t u : TaskId} {task new : Task}
    {eff : Effect} (ht : s.tasks[t]? = some task) (hphase : task.stage.phase = .binding) {l : ListenerId}
    (hl : l ∈ task.spawned) : ∃ x, (s.apply u new eff).listeners[l]? = some x ∧ x.live = true := by
  by_cases hrem : eff = .remove
  · subst hrem
    rw [apply_remove]
    exact hb.removeClient hs new.addr t task (by rw [removeClient_tasks]; exact ht) hphase l hl
  · obtain ⟨x, hx, hlive⟩ := hb t task ht hphase l hl
    exact ⟨x, apply_listeners hrem u new hx, hlive⟩

theorem BindingLive.self {s : State} (hb : BindingLive s) (hr : AllRequested s) {t : TaskId} {task task' b : Task}
    {eff : Effect} (ht : s.tasks[t]? = some task) (hm : Move X srv s.now task task' eff)
    (hget : (s.apply t task' eff).tasks[t]? = some b) (hphase : b.stage.phase = .binding) {l : ListenerId}
    (hl : l ∈ b.spawned) : ∃ x, (s.apply t task' eff).listeners[l]? = some x ∧ x.live = true := by
  obtain rfl := apply_self ht hget
  have hold : task.stage.phase = .binding → l ∈ task.spawned → eff ≠ .remove →
      ∃ x, (s.apply t task' eff).listeners[l]? = some x ∧ x.live = true := by
    intro hp hmem hrem
    obtain ⟨x, hx, hlive⟩ := hb t task ht hp l hmem
    exact ⟨x, apply_listeners hrem t task' hx, hlive⟩
  cases hm with
  | input => exact hold hphase (by simpa [Effect.spawned] using hl) (by simp)
  | @hello now stamp broken r hopen hres =>
    have hnone := (afterHello_fields task now r).2.trans ((hr t task ht).opening hopen)
    simp [Effect.spawned, hnone] at hl
  | bind before after => exact hold before (by simpa [Effect.spawned] using hl) (by simp)
  | @spawn stage transport port before after =>
    rcases List.mem_append.mp hl with hl | hl
    · exact hold before hl (by simp)
    · obtain rfl := List.mem_singleton.mp hl
      exact ⟨⟨transport, port, true⟩, by simp [State.apply], rfl⟩
  | store => cases hphase
  | serve before after => exact absurd (hphase.symm.trans after) (by simp)
  | leave => cases hphase

theorem BindingLive.step {s s' : State} {e : Event} (hs : Owned s) (hr : AllRequested s) (hb : BindingLive s)
    (h : step X srv s e = some s') : BindingLive s' := by
  cases e with
  | advance nanos =>
    simp only [Sessions.step, Option.some.injEq] at h
    subst h
    exact hb
  | tick =>
    simp only [Sessions.step, Option.some.injEq] at h
    subst h
    exact (foldl_removeClient (fun s => Owned s ∧ BindingLive s)
      (fun _ id h => ⟨h.1.removeClient id, h.2.removeClient h.1 id⟩) _ ⟨hs, hb⟩).2
  | accept addr =>
    simp only [Sessions.step, Option.some.injEq] at h
    subst h
    intro t task ht hphase l hl
    rcases get_accept ht with ht | ⟨-, rfl⟩
    · exact hb t task ht hphase l hl
    · cases hphase
  | task u e =>
    obtain ⟨task, task', eff, hu, hm, rfl⟩ := step_task h
    intro t b hget hphase l hl
    rcases apply_get hu hget with ⟨-, ht⟩ | ⟨rfl, -⟩
    · exact hb.other hs ht hphase hl
    · exact hb.self hr hu hm hget hphase hl

end Sessions

namespace ServerLoop

open HandleClient Sessions

variable {X : Externals} {srv : ReverseProxyServer}

def serving (es : List Sessions.Event) : List Event :=
  .bind (.ok ()) :: es.map .session ++ [Event.shutdown, Event.stop]

end ServerLoop

end GscFq
