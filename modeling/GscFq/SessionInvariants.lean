import GscFq.HandleClientMoves
import GscFq.Sessions

namespace GscFq.Sessions

open HandleClient

structure Spawned (tasks : List Task) (n : ℕ) : Prop where
  lt : ∀ (t : TaskId) (task : Task), tasks[t]? = some task → ∀ l ∈ task.spawned, l < n
  once : ∀ (t u : TaskId) (a b : Task) (l : ListenerId), tasks[t]? = some a → tasks[u]? = some b →
    l ∈ a.spawned → l ∈ b.spawned → t = u

/-- What ties tasks, listeners and the map together: an entry of the map belongs to a registered
task and shows what that task stored. -/
structure Owned (s : State) : Prop where
  spawned : Spawned s.tasks s.listeners.length
  entry : ∀ id session, s.clients.lookup id = some session → ∃ task : Task, s.tasks[session.owner]? = some task ∧
    task.addr = id ∧ task.stage.phase = .registered ∧ session.listeners = task.spawned ∧
      session.proxies = task.proxies ∧ task.registeredAt = some session.lastActivity

/-- A live listener is held: by a task that is still binding, or by the entry its task stored. -/
def Held (s : State) : Prop :=
  ∀ (l : ListenerId) (x : Listener), s.listeners[l]? = some x → x.live = true →
    ∃ (t : TaskId) (task : Task), s.tasks[t]? = some task ∧ l ∈ task.spawned ∧
    (task.stage.phase = .binding ∨ ∃ session, s.clients.lookup task.addr = some session ∧ session.owner = t)

/-- No two `handle_client` tasks that run at the same time have the same peer address. -/
def DistinctPeers (s : State) : Prop :=
  ∀ (t u : TaskId) (a b : Task), s.tasks[t]? = some a → s.tasks[u]? = some b → a.stage.phase ≠ .returned →
    b.stage.phase ≠ .returned → a.addr = b.addr → t = u

theorem get_set {tasks : List Task} {t u : ℕ} {old new b : Task} (ht : tasks[t]? = some old)
    (h : (tasks.set t new)[u]? = some b) : (u = t ∧ b = new) ∨ (u ≠ t ∧ tasks[u]? = some b) := by
  have hlt : t < tasks.length := (List.getElem?_eq_some_iff.mp ht).1
  rw [List.getElem?_set] at h
  by_cases hu : t = u
  · simp only [hu, ↓reduceIte] at h
    rw [if_pos (hu ▸ hlt)] at h
    exact Or.inl ⟨hu.symm, (Option.some.inj h).symm⟩
  · rw [if_neg hu] at h
    exact Or.inr ⟨Ne.symm hu, h⟩

theorem get_set_self {tasks : List Task} {t : ℕ} {old : Task} (new : Task) (ht : tasks[t]? = some old) :
    (tasks.set t new)[t]? = some new := by
  have hlt : t < tasks.length := (List.getElem?_eq_some_iff.mp ht).1
  rw [List.getElem?_set, if_pos rfl, if_pos hlt]

theorem get_set_ne {tasks : List Task} {t u : ℕ} (new : Task) (hu : u ≠ t) :
    (tasks.set t new)[u]? = tasks[u]? := by
  rw [List.getElem?_set, if_neg (Ne.symm hu)]

theorem Spawned.set {tasks : List Task} {n : ℕ} {t : TaskId} {old new : Task} (hs : Spawned tasks n)
    (ht : tasks[t]? = some old) (hl : new.spawned = old.spawned) : Spawned (tasks.set t new) n := by
  have hold : ∀ {u : TaskId} {b : Task}, (tasks.set t new)[u]? = some b →
      ∃ b', tasks[u]? = some b' ∧ b'.spawned = b.spawned := by
    intro u b hb
    rcases get_set ht hb with ⟨rfl, rfl⟩ | ⟨-, hb⟩
    · exact ⟨old, ht, hl.symm⟩
    · exact ⟨b, hb, rfl⟩
  constructor
  · intro u b hb l hm
    obtain ⟨b', hb', he⟩ := hold hb
    exact hs.lt u b' hb' l (he ▸ hm)
  · intro u v a b l ha hb hla hlb
    obtain ⟨a', ha', hea⟩ := hold ha
    obtain ⟨b', hb', heb⟩ := hold hb
    exact hs.once u v a' b' l ha' hb' (hea ▸ hla) (heb ▸ hlb)

theorem Owned.setTask {s : State} {t : TaskId} {old new : Task} (hs : Owned s) (ht : s.tasks[t]? = some old)
    (ha : new.addr = old.addr) (hl : new.spawned = old.spawned)
    (hp : old.stage.phase = .registered → new.stage.phase = .registered ∧ new.proxies = old.proxies ∧
      new.registeredAt = old.registeredAt) : Owned (s.setTask t new) := by
  refine ⟨hs.spawned.set ht hl, ?_⟩
  intro id session hlook
  obtain ⟨task, htask, haddr, hphase, hlis, hprox, hreg⟩ := hs.entry id session hlook
  by_cases hu : session.owner = t
  · rw [hu, ht] at htask
    cases htask
    obtain ⟨hph', hprox', hreg'⟩ := hp hphase
    exact ⟨new, by rw [hu]; exact get_set_self new ht, ha.trans haddr, hph', hlis.trans hl.symm,
      hprox.trans hprox'.symm, hreg'.trans hreg⟩
  · exact ⟨task, (get_set_ne new hu).trans htask, haddr, hphase, hlis, hprox, hreg⟩

theorem abort_length (listeners : List Listener) (handles : List ListenerId) :
    (abort listeners handles).length = listeners.length := by simp [abort]

theorem abort_get {listeners : List Listener} {handles : List ListenerId} {l : ListenerId} {x : Listener}
    (h : (abort listeners handles)[l]? = some x) :
    ∃ y, listeners[l]? = some y ∧ x = if l ∈ handles then { y with live := false } else y := by
  rw [abort, List.getElem?_mapIdx] at h
  obtain ⟨y, hy, hx⟩ := Option.map_eq_some_iff.mp h
  exact ⟨y, hy, hx.symm⟩

theorem abort_live {listeners : List Listener} {handles : List ListenerId} {l : ListenerId} {x : Listener}
    (h : (abort listeners handles)[l]? = some x) (hx : x.live = true) :
    listeners[l]? = some x ∧ l ∉ handles := by
  obtain ⟨y, hy, rfl⟩ := abort_get h
  by_cases hl : l ∈ handles
  · simp [hl] at hx
  · simpa [hl] using hy

theorem removeClient_cases (s : State) (id : ClientId) :
    (s.clients.lookup id = none ∧ s.removeClient id = s) ∨
      ∃ session, s.clients.lookup id = some session ∧ s.removeClient id =
        { s with clients := s.clients.erase id, listeners := abort s.listeners session.listeners } := by
  unfold State.removeClient
  cases h : s.clients.lookup id with
  | none => exact Or.inl ⟨rfl, rfl⟩
  | some session => exact Or.inr ⟨session, rfl, rfl⟩

theorem removeClient_tasks (s : State) (id : ClientId) : (s.removeClient id).tasks = s.tasks := by
  rcases removeClient_cases s id with ⟨-, h⟩ | ⟨session, -, h⟩ <;> rw [h]

theorem apply_remove (s : State) (t : TaskId) (task : Task) :
    s.apply t task .remove = (s.removeClient task.addr).setTask t task := by
  simp only [State.apply, State.setTask, State.removeClient]
  cases s.clients.lookup task.addr <;> rfl

theorem removeClient_length (s : State) (id : ClientId) :
    (s.removeClient id).listeners.length = s.listeners.length := by
  rcases removeClient_cases s id with ⟨-, h⟩ | ⟨session, -, h⟩ <;> rw [h]
  exact abort_length _ _

theorem removeClient_lookup_self (s : State) (id : ClientId) : (s.removeClient id).clients.lookup id = none := by
  rcases removeClient_cases s id with ⟨hn, h⟩ | ⟨session, -, h⟩ <;> rw [h]
  · exact hn
  · exact AList.lookup_erase id s.clients

theorem removeClient_lookup_ne (s : State) {id id' : ClientId} (hne : id' ≠ id) :
    (s.removeClient id).clients.lookup id' = s.clients.lookup id' := by
  rcases removeClient_cases s id with ⟨-, h⟩ | ⟨session, -, h⟩ <;> rw [h]
  exact AList.lookup_erase_ne hne

theorem removeClient_listener {s : State} {id : ClientId} {l : ListenerId}
    (h : ∀ session, s.clients.lookup id = some session → l ∉ session.listeners) :
    (s.removeClient id).listeners[l]? = s.listeners[l]? := by
  rcases removeClient_cases s id with ⟨-, he⟩ | ⟨session, hlook, he⟩
  · rw [he]
  · rw [he]
    simp only [abort, List.getElem?_mapIdx, if_neg (h session hlook)]
    cases s.listeners[l]? <;> rfl

theorem Owned.removeClient {s : State} (hs : Owned s) (id : ClientId) : Owned (s.removeClient id) := by
  refine ⟨by rw [removeClient_tasks, removeClient_length]; exact hs.spawned, ?_⟩
  intro id' session hlook
  have hne : id' ≠ id := by
    rintro rfl
    rw [removeClient_lookup_self] at hlook
    cases hlook
  rw [removeClient_lookup_ne s hne] at hlook
  rw [removeClient_tasks]
  exact hs.entry id' session hlook

theorem Held.removeClient {s : State} (hs : Owned s) (hh : Held s) (id : ClientId) : Held (s.removeClient id) := by
  intro l x hl hx
  rcases removeClient_cases s id with ⟨-, he⟩ | ⟨session, hlook, he⟩
  · rw [he] at hl ⊢
    exact hh l x hl hx
  · have hl' : (abort s.listeners session.listeners)[l]? = some x := by rw [he] at hl; exact hl
    obtain ⟨hlive, hnot⟩ := abort_live hl' hx
    obtain ⟨t, task, ht, hmem, hphase⟩ := hh l x hlive hx
    refine ⟨t, task, by rw [removeClient_tasks]; exact ht, hmem, ?_⟩
    rcases hphase with hb | ⟨session', hlook', howner⟩
    · exact Or.inl hb
    · -- an entry that were removed would have taken this listener with it
      have hne : task.addr ≠ id := by
        intro hid
        rw [hid, hlook] at hlook'
        cases hlook'
        obtain ⟨task', ht', -, -, hlis, -⟩ := hs.entry id session hlook
        rw [howner, ht] at ht'
        cases ht'
        exact hnot (hlis ▸ hmem)
      exact Or.inr ⟨session', by rw [removeClient_lookup_ne s hne]; exact hlook', howner⟩

theorem foldl_removeClient (I : State → Prop) (hstep : ∀ s id, I s → I (s.removeClient id))
    (ids : List ClientId) {s : State} (hs : I s) : I (ids.foldl State.removeClient s) := by
  induction ids generalizing s with
  | nil => exact hs
  | cons id ids ih => exact ih (hstep s id hs)

end GscFq.Sessions
