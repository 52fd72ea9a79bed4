import GscFq.LibraryFormats
import GscFq.SessionOwnership

namespace GscFq.Sessions

open HandleClient

variable {X : Externals} {srv : ReverseProxyServer}

theorem Held.setTask {s : State} {t : TaskId} {old new : Task} (hh : Held s) (ht : s.tasks[t]? = some old)
    (ha : new.addr = old.addr) (hl : new.spawned = old.spawned)
    (hp : old.stage.phase = .binding → new.stage.phase = .binding) : Held (s.setTask t new) := by
  intro l x hx hlive
  obtain ⟨u, task, hu, hmem, hphase⟩ := hh l x hx hlive
  by_cases hut : u = t
  · subst hut
    rw [ht] at hu
    cases hu
    exact ⟨u, new, get_set_self new ht, hl ▸ hmem, hphase.imp hp (fun h => ha ▸ h)⟩
  · exact ⟨u, task, (get_set_ne new hut).trans hu, hmem, hphase⟩

theorem Held.accept {s : State} (hh : Held s) (addr : SocketAddr) :
    Held { s with tasks := s.tasks ++ [.start addr] } := by
  intro l x hx hlive
  obtain ⟨t, task, ht, hrest⟩ := hh l x hx hlive
  exact ⟨t, task, by rw [List.getElem?_append_left (List.getElem?_eq_some_iff.mp ht).1]; exact ht, hrest⟩

theorem Held.leaveOpening {s : State} {t : TaskId} {old new : Task} (hs : Owned s) (hh : Held s)
    (ht : s.tasks[t]? = some old) (ho : old.stage = .hello) : Held (s.setTask t new) := by
  intro l x hx hlive
  obtain ⟨u, task, hu, hmem, hphase⟩ := hh l x hx hlive
  by_cases hut : u = t
  · subst hut
    rw [ht] at hu
    cases hu
    rcases hphase with hb | ⟨session, hlook, howner⟩
    · rw [ho] at hb
      cases hb
    · obtain ⟨task', ht', -, hr, -⟩ := hs.entry _ session hlook
      rw [howner, ht] at ht'
      cases ht'
      rw [ho] at hr
      cases hr
  · exact ⟨u, task, (get_set_ne new hut).trans hu, hmem, hphase⟩

theorem Held.spawn {s : State} {t : TaskId} {old new : Task} (hh : Held s) (ht : s.tasks[t]? = some old)
    (hl : new.spawned = old.spawned) (hn : new.stage.phase = .binding) (transport : Transport)
    (port : UInt16) : Held (s.apply t new (.spawn transport port)) := by
  intro l x hx hlive
  have hnew := get_set_self { new with spawned := new.spawned ++ [s.listeners.length] } ht
  have hx' : (s.listeners ++ [⟨transport, port, true⟩])[l]? = some x := hx
  rw [List.getElem?_append] at hx'
  split at hx'
  · obtain ⟨u, task, hu, hmem, hphase⟩ := hh l x hx' hlive
    by_cases hut : u = t
    · subst hut
      rw [ht] at hu
      cases hu
      exact ⟨u, _, hnew, by rw [hl]; exact List.mem_append_left _ hmem, Or.inl hn⟩
    · exact ⟨u, task, (get_set_ne _ hut).trans hu, hmem, hphase⟩
  · rename_i hlt
    have hle : l - s.listeners.length < 1 := (List.getElem?_eq_some_iff.mp hx').1
    have hle' : l = s.listeners.length :=
      Nat.le_antisymm (Nat.sub_eq_zero_iff_le.mp (Nat.lt_one_iff.mp hle)) (Nat.not_lt.mp hlt)
    exact ⟨t, _, hnew, List.mem_append_right _ (by simp [hle']), Or.inl hn⟩

theorem Held.insert {s : State} {t : TaskId} {old new : Task} (hh : Held s) (ht : s.tasks[t]? = some old)
    (hl : new.spawned = old.spawned) (hfree : s.clients.lookup new.addr = none) :
    Held (s.apply t new .insert) := by
  intro l x hx hlive
  obtain ⟨u, task, hu, hmem, hphase⟩ := hh l x hx hlive
  by_cases hut : u = t
  · subst hut
    rw [ht] at hu
    cases hu
    exact ⟨u, new, get_set_self new ht, hl ▸ hmem, Or.inr ⟨_, AList.lookup_insert s.clients, rfl⟩⟩
  · refine ⟨u, task, (get_set_ne new hut).trans hu, hmem, hphase.imp id ?_⟩
    rintro ⟨session, hlook, howner⟩
    have hne : task.addr ≠ new.addr := by
      intro he
      rw [he, hfree] at hlook
      cases hlook
    exact ⟨session, (AList.lookup_insert_ne hne).trans hlook, howner⟩

theorem DistinctPeers.free {s : State} {t : TaskId} {task : Task} (hd : DistinctPeers s) (hs : Owned s)
    (ht : s.tasks[t]? = some task) (hb : task.stage.phase = .binding) : s.clients.lookup task.addr = none := by
  by_contra hne
  obtain ⟨session, hlook⟩ := Option.ne_none_iff_exists'.mp hne
  obtain ⟨owner, ho, haddr, hreg, -⟩ := hs.entry _ session hlook
  have he : session.owner = t := hd _ t owner task ho ht (by rw [hreg]; simp) (by rw [hb]; simp) haddr
  rw [he, ht] at ho
  cases ho
  rw [hb] at hreg
  cases hreg

theorem Held.leave {s : State} {t : TaskId} {old new : Task} (hs : Owned s) (hh : Held s)
    (ht : s.tasks[t]? = some old) (ha : new.addr = old.addr)
    (hb : old.stage.phase = .registered) : Held (s.apply t new .remove) := by
  rw [apply_remove]
  intro l x hx hlive
  obtain ⟨u, task, hu, hmem, hphase⟩ := hh.removeClient hs new.addr l x hx hlive
  have hut : u ≠ t := by
    rintro rfl
    rw [removeClient_tasks, ht] at hu
    cases hu
    rcases hphase with hbind | ⟨session, hlook, -⟩
    · rw [hb] at hbind
      cases hbind
    · rw [← ha, removeClient_lookup_self] at hlook
      cases hlook
  exact ⟨u, task, (get_set_ne new hut).trans hu, hmem, hphase⟩

/-- The step stores a session where another one is still in the map. -/
def Displaces (s : State) (e : Event) : Prop :=
  ∃ t task session, e = .task t .store ∧ s.tasks[t]? = some task ∧ s.clients.lookup task.addr = some session

theorem Held.step {s s' : State} {e : Event} (hs : Owned s) (hh : Held s) (hd : ¬ Displaces s e)
    (h : step X srv s e = some s') : Held s' := by
  cases e with
  | advance nanos =>
    simp only [Sessions.step, Option.some.injEq] at h
    subst h
    exact hh
  | tick =>
    simp only [Sessions.step, Option.some.injEq] at h
    subst h
    exact (foldl_removeClient (fun s => Owned s ∧ Held s)
      (fun _ id h => ⟨h.1.removeClient id, h.2.removeClient h.1 id⟩) _ ⟨hs, hh⟩).2
  | accept addr =>
    simp only [Sessions.step, Option.some.injEq] at h
    subst h
    exact hh.accept addr
  | task t e =>
    obtain ⟨task, task', eff, ht, hp, rfl⟩ := step_task_eq h
    cases step_move hp with
    | input => exact hh.setTask ht rfl rfl id
    | hello hopen hr => exact hh.leaveOpening hs ht hopen
    | bind hb ha => exact hh.setTask ht rfl rfl (fun _ => ha)
    | spawn hb ha => exact hh.spawn ht (by rfl) ha _ _
    | store hb =>
      refine hh.insert ht (by rfl) ?_
      by_contra hne
      obtain ⟨session, hlook⟩ := Option.ne_none_iff_exists'.mp hne
      exact hd ⟨t, task, session, by rw [step_insert hp], ht, hlook⟩
    | serve hb ha => exact hh.setTask ht rfl rfl (fun hp => by rw [hb] at hp; cases hp)
    | leave hb => exact hh.leave hs ht rfl (by rw [hb]; rfl)

theorem init_held : Held init := by
  intro l x hx
  simp [init] at hx

theorem run_held_free {es : List Event} {s : State} (h : run X srv es = some s)
    (hd : ∀ u e, Transitions.Occurs (step X srv) init es u e → ¬ Displaces u e) : Owned s ∧ Held s := by
  apply Transitions.run_invariant_occurs (I := fun s => Owned s ∧ Held s) h hd
  · exact ⟨init_owned, init_held⟩
  · intro u e v hne hu he
    exact ⟨hu.1.step he, hu.2.step hu.1 hne he⟩

theorem distinct_not_displaces {es : List Event} {s : State} (h : run X srv es = some s)
    (hd : Transitions.Along (step X srv) DistinctPeers init es) :
    ∀ u e, Transitions.Occurs (step X srv) init es u e → ¬ Displaces u e := by
  rintro u e hocc ⟨t, task, session, rfl, ht, hlook⟩
  obtain ⟨v, hv⟩ := hocc.enabled h
  obtain ⟨before, after, hes, hu⟩ := hocc
  obtain ⟨task', new, eff, ht', hp, -⟩ := step_task_eq hv
  rw [ht] at ht'
  cases ht'
  have hb : task.stage.phase = .binding := by
    simp only [HandleClient.step] at hp
    split at hp
    · rename_i hs
      rw [hs]
      rfl
    · cases hp
  have hnone := (hd before _ u hes hu).free (run_owned hu) ht hb
  rw [hlook] at hnone
  cases hnone

theorem run_held {es : List Event} {s : State} (h : run X srv es = some s)
    (hd : Transitions.Along (step X srv) DistinctPeers init es) : Owned s ∧ Held s :=
  run_held_free h (distinct_not_displaces h hd)

theorem Held.spawner {s : State} (hs : Owned s) (hh : Held s) {l : ListenerId} {x : Listener}
    (hx : s.listeners[l]? = some x) (hlive : x.live = true) :
    ∃! t : TaskId, ∃ task, s.tasks[t]? = some task ∧ l ∈ task.spawned := by
  obtain ⟨t, task, ht, hmem, -⟩ := hh l x hx hlive
  refine ⟨t, ⟨task, ht, hmem⟩, ?_⟩
  rintro u ⟨b, hb, hlb⟩
  exact hs.spawned.once u t b task l hb ht hlb hmem

theorem Held.recorded {s : State} (hs : Owned s) (hh : Held s) {l : ListenerId} {x : Listener}
    (hx : s.listeners[l]? = some x) (hlive : x.live = true) {t : TaskId} {task : Task} (ht : s.tasks[t]? = some task)
    (hmem : l ∈ task.spawned) (hnb : task.stage.phase ≠ .binding) :
    ∃! id : ClientId, ∃ session, s.clients.lookup id = some session ∧ l ∈ session.listeners := by
  obtain ⟨u, b, hu, hlb, hphase⟩ := hh l x hx hlive
  obtain rfl : u = t := hs.spawned.once u t b task l hu ht hlb hmem
  obtain rfl : task = b := Option.some.inj (ht.symm.trans hu)
  obtain ⟨session, hlook, howner⟩ := hphase.resolve_left hnb
  obtain ⟨c, hc, -, -, hlis, -⟩ := hs.entry _ session hlook
  obtain rfl : task = c := Option.some.inj (ht.symm.trans (howner ▸ hc))
  refine ⟨task.addr, ⟨session, hlook, hlis ▸ hmem⟩, ?_⟩
  rintro id ⟨session', hlook', hmem'⟩
  obtain ⟨c', hc', haddr', -, hlis', -⟩ := hs.entry id session' hlook'
  have howner' : session'.owner = u := hs.spawned.once _ _ c' task l hc' ht (hlis' ▸ hmem') hmem
  obtain rfl : task = c' := Option.some.inj (ht.symm.trans (howner' ▸ hc'))
  exact haddr'.symm

theorem Owned.no_entry {s : State} (hs : Owned s) {t : TaskId} {task : Task} {r : Except AppError Unit}
    (ht : s.tasks[t]? = some task) (hr : task.stage = .returned r) {id : ClientId} {session : ClientSession}
    (hlook : s.clients.lookup id = some session) : session.owner ≠ t := by
  rintro rfl
  obtain ⟨c, hc, -, hreg, -⟩ := hs.entry id session hlook
  obtain rfl : task = c := Option.some.inj (ht.symm.trans hc)
  rw [hr] at hreg
  cases hreg

theorem Held.released {s : State} (hs : Owned s) (hh : Held s) {t : TaskId} {task : Task}
    {r : Except AppError Unit} (ht : s.tasks[t]? = some task) (hr : task.stage = .returned r) {l : ListenerId}
    (hl : l ∈ task.spawned) {x : Listener} (hx : s.listeners[l]? = some x) : x.live = false := by
  by_contra hlive
  obtain ⟨u, b, hu, hlb, hphase⟩ := hh l x hx (by simpa using hlive)
  obtain rfl : u = t := hs.spawned.once u t b task l hu ht hlb hl
  obtain rfl : task = b := Option.some.inj (ht.symm.trans hu)
  rcases hphase with hb | ⟨session, hlook, howner⟩
  · rw [hr] at hb
    cases hb
  · exact hs.no_entry ht hr hlook howner

theorem listeners_owned_and_released {es : List Event} {s : State} (h : run X srv es = some s)
    (hd : Transitions.Along (step X srv) DistinctPeers init es) :
    (∀ (l : ListenerId) (x : Listener), s.listeners[l]? = some x → x.live = true →
      (∃! t : TaskId, ∃ task, s.tasks[t]? = some task ∧ l ∈ task.spawned) ∧
      ∀ (t : TaskId) (task : Task), s.tasks[t]? = some task → l ∈ task.spawned →
        task.stage.phase ≠ .binding →
          ∃! id : ClientId, ∃ session, s.clients.lookup id = some session ∧ l ∈ session.listeners) ∧
    ∀ (t : TaskId) (task : Task) (r : Except AppError Unit), s.tasks[t]? = some task →
      task.stage = .returned r →
        (∀ l ∈ task.spawned, ∀ x, s.listeners[l]? = some x → x.live = false) ∧
        ∀ id session, s.clients.lookup id = some session → session.owner ≠ t := by
  obtain ⟨hs, hh⟩ := run_held h hd
  constructor
  · intro l x hx hlive
    refine ⟨hh.spawner hs hx hlive, ?_⟩
    intro t task ht hmem hnb
    exact hh.recorded hs hx hlive ht hmem hnb
  · intro t task r ht hr
    constructor
    · intro l hl x hx
      exact hh.released hs ht hr hl hx
    · intro id session hlook
      exact hs.no_entry ht hr hlook

theorem distinctPeers_of_length {s : State} (h : s.tasks.length ≤ 1) : DistinctPeers s := by
  intro t u a b ht hu _ _ _
  have hlt := (List.getElem?_eq_some_iff.mp ht).1
  have hlu := (List.getElem?_eq_some_iff.mp hu).1
  have ht0 : t = 0 := Nat.lt_one_iff.mp (Nat.lt_of_lt_of_le hlt h)
  have hu0 : u = 0 := Nat.lt_one_iff.mp (Nat.lt_of_lt_of_le hlu h)
  exact ht0.trans hu0.symm

def samplePeer : SocketAddr := .new (.v4 127 0 0 1) 50000

def sampleSession : List Event :=
  [.accept samplePeer, .task 0 (.recv Bincode.sampleHelloFrame), .task 0 (.hello 0 0 none), .task 0 (.bindTcp true),
    .task 0 (.bindUdp false), .task 0 .store]

def sampleEnded : List Event := sampleSession ++ [.task 0 .disconnect, .task 0 .leave]

def sampleOpenServer : ReverseProxyServer := .new none (.v4 0 0 0 0) 9001

theorem sample_distinctPeers :
    Transitions.Along (step Bincode.sample sampleOpenServer) DistinctPeers init sampleEnded := by
  have hone : ∀ es ∈ sampleEnded.inits,
      (run Bincode.sample sampleOpenServer es).all (fun s => decide (s.tasks.length ≤ 1)) = true := by decide +kernel
  intro before after u hes hu
  have hu' := hone before ((List.mem_inits before _).mpr ⟨after, hes.symm⟩)
  rw [show run Bincode.sample sampleOpenServer before = some u from hu] at hu'
  exact distinctPeers_of_length (by simpa using hu')

theorem sample_listeners_released :
    ∃ s, run Bincode.sample sampleOpenServer sampleEnded = some s ∧
      ∀ (t : TaskId) (task : Task) (r : Except AppError Unit), s.tasks[t]? = some task → task.stage = .returned r →
        ∀ l ∈ task.spawned, ∀ x, s.listeners[l]? = some x → x.live = false := by
  have hrun : (run Bincode.sample sampleOpenServer sampleEnded).isSome = true := by decide +kernel
  obtain ⟨s, hs⟩ := Option.isSome_iff_exists.mp hrun
  refine ⟨s, hs, ?_⟩
  intro t task r ht hr
  exact ((listeners_owned_and_released hs sample_distinctPeers).2 t task r ht hr).1

end GscFq.Sessions
