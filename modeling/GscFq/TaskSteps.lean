import GscFq.SessionInvariants

namespace GscFq.Sessions

open HandleClient

variable {X : Externals} {srv : ReverseProxyServer}

theorem step_task_eq {s s' : State} {t : TaskId} {e : HandleClient.Event}
    (h : step X srv s (.task t e) = some s') : ∃ (task task' : Task) (eff : Effect), s.tasks[t]? = some task ∧
      HandleClient.step X srv s.now task e = some (task', eff) ∧ s' = s.apply t task' eff := by
  simp only [step, Option.bind_eq_some_iff, Option.map_eq_some_iff] at h
  obtain ⟨task, ht, ⟨task', eff⟩, hp, rfl⟩ := h
  exact ⟨task, task', eff, ht, hp, rfl⟩

theorem step_task {s s' : State} {t : TaskId} {e : HandleClient.Event}
    (h : step X srv s (.task t e) = some s') : ∃ (task task' : Task) (eff : Effect), s.tasks[t]? = some task ∧
      Move X srv s.now task task' eff ∧ s' = s.apply t task' eff := by
  obtain ⟨task, task', eff, ht, hp, rfl⟩ := step_task_eq h
  exact ⟨task, task', eff, ht, step_move hp, rfl⟩

theorem afterHello_fields (task : Task) (now : UInt64) (r : ReverseProxyServer.HandshakeResult) :
    (afterHello task now r).addr = task.addr ∧ (afterHello task now r).spawned = task.spawned := by
  unfold afterHello
  cases r.outcome <;> exact ⟨rfl, rfl⟩

theorem get_accept {s : State} {addr : SocketAddr} {t : TaskId} {task : Task}
    (h : (s.tasks ++ [Task.start addr])[t]? = some task) :
    s.tasks[t]? = some task ∨ (s.tasks[t]? = none ∧ task = .start addr) := by
  rw [List.getElem?_append] at h
  split at h
  · exact Or.inl h
  · rename_i hlt
    exact Or.inr ⟨List.getElem?_eq_none (Nat.not_lt.mp hlt), List.mem_singleton.mp (List.mem_of_getElem? h)⟩

theorem apply_get {s : State} {t u : TaskId} {old new b : Task} {eff : Effect} (ht : s.tasks[t]? = some old)
    (h : (s.apply t new eff).tasks[u]? = some b) :
    (u ≠ t ∧ s.tasks[u]? = some b) ∨ (u = t ∧ ∃ spawned, b = { new with spawned := spawned } ∧
      (eff = .none → spawned = new.spawned)) := by
  have key : ∀ new', (s.tasks.set t new')[u]? = some b →
      (u ≠ t ∧ s.tasks[u]? = some b) ∨ (u = t ∧ b = new') := by
    intro new' h'
    rcases get_set ht h' with ⟨hu, hb⟩ | hne
    · exact Or.inr ⟨hu, hb⟩
    · exact Or.inl hne
  cases eff with
  | none => exact (key new h).imp id (fun hb => ⟨hb.1, _, hb.2, fun _ => rfl⟩)
  | spawn transport port => exact (key _ h).imp id (fun hb => ⟨hb.1, _, hb.2, fun he => by cases he⟩)
  | insert => exact (key new h).imp id (fun hb => ⟨hb.1, _, hb.2, fun _ => rfl⟩)
  | remove =>
    rw [apply_remove] at h
    have h' : (s.tasks.set t new)[u]? = some b := by rw [← removeClient_tasks s new.addr]; exact h
    exact (key new h').imp id (fun hb => ⟨hb.1, _, hb.2, fun _ => rfl⟩)

theorem apply_isSome {s : State} {t u : TaskId} {a : Task} (new : Task) (eff : Effect) (hu : s.tasks[u]? = some a) :
    ∃ b, (s.apply t new eff).tasks[u]? = some b := by
  have hlen : (s.apply t new eff).tasks.length = s.tasks.length := by
    cases eff with
    | remove => rw [apply_remove, State.setTask, removeClient_tasks, List.length_set]
    | none | spawn | insert => simp [State.apply, State.setTask]
  have hlt : u < (s.apply t new eff).tasks.length := hlen ▸ (List.getElem?_eq_some_iff.mp hu).1
  exact ⟨_, List.getElem?_eq_getElem hlt⟩

def Effect.spawned (s : State) : Effect → List ListenerId
  | .spawn _ _ => [s.listeners.length]
  | _ => []

theorem mem_effect_spawned {s : State} {eff : Effect} {l : ListenerId} (h : l ∈ Effect.spawned s eff) :
    l = s.listeners.length ∧ ∃ transport port, eff = .spawn transport port := by
  cases eff with
  | none | insert | remove => cases h
  | spawn transport port => exact ⟨List.mem_singleton.mp h, transport, port, rfl⟩

theorem apply_self {s : State} {t : TaskId} {old new b : Task} {eff : Effect} (ht : s.tasks[t]? = some old)
    (h : (s.apply t new eff).tasks[t]? = some b) :
    b = { new with spawned := new.spawned ++ Effect.spawned s eff } := by
  cases eff with
  | none | insert =>
    obtain rfl : new = b := Option.some.inj ((get_set_self new ht).symm.trans h)
    simp [Effect.spawned]
  | spawn transport port => exact (Option.some.inj ((get_set_self _ ht).symm.trans h)).symm
  | remove =>
    rw [apply_remove] at h
    have ht' : (s.removeClient new.addr).tasks[t]? = some old := by rw [removeClient_tasks]; exact ht
    obtain rfl : new = b := Option.some.inj ((get_set_self new ht').symm.trans h)
    simp [Effect.spawned]

theorem cleanup_tasks (s : State) : s.cleanup.tasks = s.tasks :=
  foldl_removeClient (fun s' => s'.tasks = s.tasks) (fun s' id h => (removeClient_tasks s' id).trans h) _ rfl

/-- What a step of the server makes of a task: nothing, or one of its own moves. -/
def Follows (X : Externals) (srv : ReverseProxyServer) (now : ℕ) (task task' : Task) : Prop :=
  task' = task ∨ ∃ new eff spawned, Move X srv now task new eff ∧ task' = { new with spawned := spawned } ∧
    (eff = .none → spawned = new.spawned)

theorem step_origin {s s' : State} {e : Event} {t : TaskId} {task' : Task} (h : step X srv s e = some s')
    (ht : s'.tasks[t]? = some task') :
    (s.tasks[t]? = none ∧ ∃ addr, task' = .start addr) ∨
      ∃ task, s.tasks[t]? = some task ∧ Follows X srv s.now task task' := by
  cases e with
  | advance nanos =>
    simp only [step, Option.some.injEq] at h
    subst h
    exact Or.inr ⟨task', ht, Or.inl rfl⟩
  | tick =>
    simp only [step, Option.some.injEq] at h
    subst h
    rw [cleanup_tasks] at ht
    exact Or.inr ⟨task', ht, Or.inl rfl⟩
  | accept addr =>
    simp only [step, Option.some.injEq] at h
    subst h
    rcases get_accept ht with ht | ⟨hnew, rfl⟩
    · exact Or.inr ⟨task', ht, Or.inl rfl⟩
    · exact Or.inl ⟨hnew, addr, rfl⟩
  | task u e =>
    obtain ⟨old, new, eff, hu, hm, rfl⟩ := step_task h
    rcases apply_get hu ht with ⟨-, hold⟩ | ⟨rfl, spawned, rfl, hnone⟩
    · exact Or.inr ⟨task', hold, Or.inl rfl⟩
    · exact Or.inr ⟨old, hu, Or.inr ⟨new, eff, spawned, hm, rfl, hnone⟩⟩

theorem step_isSome {s s' : State} {e : Event} {t : TaskId} {task : Task} (h : step X srv s e = some s')
    (ht : s.tasks[t]? = some task) : ∃ task', s'.tasks[t]? = some task' := by
  cases e with
  | advance nanos =>
    simp only [step, Option.some.injEq] at h
    subst h
    exact ⟨task, ht⟩
  | tick =>
    simp only [step, Option.some.injEq] at h
    subst h
    exact ⟨task, by rw [cleanup_tasks]; exact ht⟩
  | accept addr =>
    simp only [step, Option.some.injEq] at h
    subst h
    exact ⟨task, by rw [List.getElem?_append_left (List.getElem?_eq_some_iff.mp ht).1]; exact ht⟩
  | task u e =>
    obtain ⟨old, new, eff, -, -, rfl⟩ := step_task h
    exact apply_isSome new eff ht

theorem step_follows {s s' : State} {e : Event} {t : TaskId} {task : Task} (h : step X srv s e = some s')
    (ht : s.tasks[t]? = some task) :
    ∃ task', s'.tasks[t]? = some task' ∧ Follows X srv s.now task task' := by
  obtain ⟨task', ht'⟩ := step_isSome h ht
  rcases step_origin h ht' with ⟨hnew, -⟩ | ⟨old, hold, hf⟩
  · rw [ht] at hnew
    cases hnew
  · rw [ht] at hold
    cases hold
    exact ⟨task', ht', hf⟩

theorem run_tasks {P : Task → Prop} (hstart : ∀ addr, P (.start addr))
    (hstep : ∀ now task task', P task → Follows X srv now task task' → P task') {es : List Event} {s : State}
    (h : run X srv es = some s) : ∀ (t : TaskId) (task : Task), s.tasks[t]? = some task → P task := by
  apply Transitions.run_invariant (I := fun s => ∀ (t : TaskId) (task : Task), s.tasks[t]? = some task → P task) h
  · intro t task ht
    simp [init] at ht
  · intro u e v hu he t task' ht'
    rcases step_origin he ht' with ⟨-, addr, rfl⟩ | ⟨task, ht, hf⟩
    · exact hstart addr
    · exact hstep u.now task task' (hu t task ht) hf

end GscFq.Sessions
