import GscFq.TaskSteps

namespace GscFq.Sessions

open HandleClient

variable {X : Externals} {srv : ReverseProxyServer}

theorem Owned.accept {s : State} (hs : Owned s) (addr : SocketAddr) :
    Owned { s with tasks := s.tasks ++ [.start addr] } := by
  refine ⟨⟨?_, ?_⟩, ?_⟩
  · intro t task ht l hl
    rcases get_accept ht with ht | ⟨-, rfl⟩
    · exact hs.spawned.lt t task ht l hl
    · simp [Task.start] at hl
  · intro t u a b l ha hb hla hlb
    rcases get_accept ha with ha | ⟨-, rfl⟩
    · rcases get_accept hb with hb | ⟨-, rfl⟩
      · exact hs.spawned.once t u a b l ha hb hla hlb
      · simp [Task.start] at hlb
    · simp [Task.start] at hla
  · intro id session hlook
    obtain ⟨task, ht, hrest⟩ := hs.entry id session hlook
    exact ⟨task, by rw [List.getElem?_append_left (List.getElem?_eq_some_iff.mp ht).1]; exact ht, hrest⟩

theorem Spawned.push {tasks : List Task} {n : ℕ} {t : TaskId} {old new : Task} (hs : Spawned tasks n)
    (ht : tasks[t]? = some old) (hl : new.spawned = old.spawned ++ [n]) : Spawned (tasks.set t new) (n + 1) := by
  have hget : ∀ {u : TaskId} {b : Task}, (tasks.set t new)[u]? = some b →
      ∃ b', tasks[u]? = some b' ∧ ∀ l ∈ b.spawned, l ∈ b'.spawned ∨ (u = t ∧ l = n) := by
    intro u b hu
    rcases get_set ht hu with ⟨rfl, rfl⟩ | ⟨-, hu⟩
    · refine ⟨old, ht, fun l hm => ?_⟩
      rw [hl, List.mem_append, List.mem_singleton] at hm
      exact hm.imp id (fun h => ⟨rfl, h⟩)
    · exact ⟨b, hu, fun l hm => Or.inl hm⟩
  constructor
  · intro u b hu l hm
    obtain ⟨b', hb', hsub⟩ := hget hu
    rcases hsub l hm with h | ⟨-, rfl⟩
    · exact Nat.lt_succ_of_lt (hs.lt u b' hb' l h)
    · exact Nat.lt_succ_self _
  · intro u v a b l hu hv hla hlb
    obtain ⟨a', ha', hsa⟩ := hget hu
    obtain ⟨b', hb', hsb⟩ := hget hv
    rcases hsa l hla with hla | ⟨rfl, rfl⟩
    · rcases hsb l hlb with hlb | ⟨-, rfl⟩
      · exact hs.once u v a' b' l ha' hb' hla hlb
      · exact absurd (hs.lt u a' ha' _ hla) (lt_irrefl _)
    · rcases hsb _ hlb with hlb | ⟨rfl, -⟩
      · exact absurd (hs.lt v b' hb' _ hlb) (lt_irrefl _)
      · rfl

theorem Owned.spawn {s : State} {t : TaskId} {old new : Task} (hs : Owned s) (ht : s.tasks[t]? = some old)
    (hl : new.spawned = old.spawned) (hb : old.stage.phase = .binding) (transport : Transport) (port : UInt16) :
    Owned (s.apply t new (.spawn transport port)) := by
  have hlen : (s.apply t new (.spawn transport port)).listeners.length = s.listeners.length + 1 := by
    simp [State.apply]
  refine ⟨hlen ▸ hs.spawned.push ht (by rw [hl]), ?_⟩
  intro id session hlook
  obtain ⟨task, htask, haddr, hphase, hrest⟩ := hs.entry id session hlook
  have hu : session.owner ≠ t := by
    intro hu
    rw [hu, ht] at htask
    cases htask
    rw [hb] at hphase
    cases hphase
  exact ⟨task, (get_set_ne _ hu).trans htask, haddr, hphase, hrest⟩

theorem Owned.insert {s : State} {t : TaskId} {old new : Task} (hs : Owned s) (ht : s.tasks[t]? = some old)
    (ha : new.addr = old.addr) (hl : new.spawned = old.spawned) (hb : old.stage.phase = .binding)
    (hr : new.stage.phase = .registered) (hat : new.registeredAt = some s.now) :
    Owned (s.apply t new .insert) := by
  have hset := hs.setTask ht ha hl (fun h => by rw [hb] at h; cases h)
  refine ⟨hset.spawned, ?_⟩
  intro id session hlook
  by_cases hid : id = new.addr
  · subst hid
    have hse : session = ⟨new.proxies, new.spawned, s.now, t⟩ := by
      have := hlook.symm.trans (AList.lookup_insert s.clients)
      exact Option.some.inj this
    subst hse
    exact ⟨new, get_set_self new ht, rfl, hr, rfl, rfl, hat⟩
  · have hlook' : s.clients.lookup id = some session := (AList.lookup_insert_ne hid).symm.trans hlook
    exact hset.entry id session hlook'

theorem Owned.leave {s : State} {t : TaskId} {old new : Task} (hs : Owned s) (ht : s.tasks[t]? = some old)
    (ha : new.addr = old.addr) (hl : new.spawned = old.spawned) : Owned (s.apply t new .remove) := by
  -- between the two halves the returned task may still have its entry, so the entry goes first
  have hrem := hs.removeClient new.addr
  have ht' : (s.removeClient new.addr).tasks[t]? = some old := by rw [removeClient_tasks]; exact ht
  rw [apply_remove]
  refine ⟨hrem.spawned.set ht' hl, ?_⟩
  intro id session hlook
  obtain ⟨task, htask, haddr, hrest⟩ := hrem.entry id session hlook
  have hu : session.owner ≠ t := by
    intro hu
    rw [hu, ht'] at htask
    cases htask
    have hid : id = new.addr := haddr.symm.trans ha.symm
    have hgone : (s.removeClient new.addr).clients.lookup id = none := by
      rw [hid]; exact removeClient_lookup_self s new.addr
    exact absurd (hgone.symm.trans hlook) (by simp)
  exact ⟨task, (get_set_ne _ hu).trans htask, haddr, hrest⟩

theorem Owned.step {s s' : State} {e : Event} (hs : Owned s) (h : step X srv s e = some s') : Owned s' := by
  cases e with
  | advance nanos =>
    simp only [Sessions.step, Option.some.injEq] at h
    subst h
    exact ⟨hs.spawned, hs.entry⟩
  | tick =>
    simp only [Sessions.step, Option.some.injEq] at h
    subst h
    exact foldl_removeClient Owned (fun _ id h => h.removeClient id) _ hs
  | accept addr =>
    simp only [Sessions.step, Option.some.injEq] at h
    subst h
    exact hs.accept addr
  | task t e =>
    obtain ⟨task, task', eff, ht, hm, rfl⟩ := step_task h
    cases hm with
    | input => exact hs.setTask ht rfl rfl (fun hp => ⟨hp, rfl, rfl⟩)
    | @hello now stamp broken r hopen hr =>
      obtain ⟨ha, hl⟩ := afterHello_fields task now r
      exact hs.setTask ht ha hl (fun hp => by rw [hopen] at hp; cases hp)
    | bind hb ha => exact hs.setTask ht rfl rfl (fun hp => by rw [hb] at hp; cases hp)
    | spawn hb ha => exact hs.spawn ht (by rfl) hb _ _
    | store hb => exact hs.insert ht rfl rfl (by rw [hb]; rfl) rfl rfl
    | serve hb ha => exact hs.setTask ht rfl rfl (fun _ => ⟨ha, rfl, rfl⟩)
    | leave hb => exact hs.leave ht rfl rfl

theorem init_owned : Owned init := by
  refine ⟨⟨?_, ?_⟩, ?_⟩ <;> simp [init]

theorem run_owned {es : List Event} {s : State} (h : run X srv es = some s) : Owned s :=
  Transitions.run_invariant h init_owned (fun _ _ _ hs he => hs.step he)

end GscFq.Sessions
