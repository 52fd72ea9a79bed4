import GscFq.ListenerOwnership
import GscFq.Lists

namespace GscFq.Sessions

open HandleClient

variable {X : Externals} {srv : ReverseProxyServer}

theorem foldl_lookup (ids : List ClientId) (s : State) (id : ClientId) :
    (ids.foldl State.removeClient s).clients.lookup id = if id ∈ ids then none else s.clients.lookup id :=
  Lists.foldl_remove (fun s id => s.clients.lookup id) removeClient_lookup_self
    (fun s _ _ hne => removeClient_lookup_ne s hne) ids s id

theorem foldl_listener (ids : List ClientId) {s : State} {l : ListenerId}
    (h : ∀ id ∈ ids, ∀ session, s.clients.lookup id = some session → l ∉ session.listeners) :
    (ids.foldl State.removeClient s).listeners[l]? = s.listeners[l]? := by
  induction ids generalizing s with
  | nil => rfl
  | cons a ids ih =>
    rw [List.foldl_cons, ih, removeClient_listener (h a List.mem_cons_self)]
    intro id hid session hlook
    have hne : id ≠ a := by
      rintro rfl
      rw [removeClient_lookup_self] at hlook
      cases hlook
    rw [removeClient_lookup_ne s hne] at hlook
    exact h id (List.mem_cons_of_mem a hid) session hlook

theorem mem_toRemove {s : State} {id : ClientId} :
    id ∈ s.toRemove ↔ ∃ session, s.clients.lookup id = some session ∧ idleLimit < s.now - session.lastActivity := by
  simp only [State.toRemove, List.mem_map, List.mem_filter, inactive, decide_eq_true_eq]
  constructor
  · rintro ⟨⟨id', session⟩, ⟨hmem, hidle⟩, rfl⟩
    exact ⟨session, AList.mem_lookup_iff.mpr hmem, hidle⟩
  · rintro ⟨session, hlook, hidle⟩
    exact ⟨⟨id, session⟩, ⟨AList.mem_lookup_iff.mp hlook, hidle⟩, rfl⟩

/-- The tunnel connection of the task is open and a tunnel request of it was processed within the
last 300 seconds. -/
def Active (s : State) (task : Task) : Prop :=
  task.stage = .serving ∧ ∃ r, task.requestAt = some r ∧ s.now - r ≤ idleLimit

def ActiveSession (s : State) (id : ClientId) (session : ClientSession) (task : Task) : Prop :=
  s.clients.lookup id = some session ∧ s.tasks[session.owner]? = some task ∧ Active s task

def SparesActive (s : State) : Prop :=
  ∀ id session task, ActiveSession s id session task →
    s.cleanup.clients.lookup id = some session ∧
      ∀ l ∈ session.listeners, s.cleanup.listeners[l]? = s.listeners[l]?

def ActiveAreYoung (s : State) : Prop :=
  ∀ id session task, ActiveSession s id session task →
    ∃ r, task.registeredAt = some r ∧ s.now - r ≤ idleLimit

theorem cleanup_listener {s : State} (hs : Owned s) {id : ClientId} {session : ClientSession}
    (hlook : s.clients.lookup id = some session) (hkeep : id ∉ s.toRemove) {l : ListenerId}
    (hl : l ∈ session.listeners) : s.cleanup.listeners[l]? = s.listeners[l]? := by
  apply foldl_listener
  intro id' hid' session' hlook' hl'
  obtain ⟨task, ht, haddr, -, hlis, -⟩ := hs.entry id session hlook
  obtain ⟨task', ht', haddr', -, hlis', -⟩ := hs.entry id' session' hlook'
  have howner := hs.spawned.once _ _ task' task l ht' ht (hlis' ▸ hl') (hlis ▸ hl)
  rw [howner, ht] at ht'
  cases ht'
  exact hkeep (haddr ▸ haddr' ▸ hid')

theorem sparesActive_iff {s : State} (hs : Owned s) : SparesActive s ↔ ActiveAreYoung s := by
  constructor
  · intro hspare id session task hact
    obtain ⟨hkept, -⟩ := hspare id session task hact
    obtain ⟨hlook, ht, -⟩ := hact
    obtain ⟨task', ht', -, -, -, -, hreg⟩ := hs.entry id session hlook
    rw [ht] at ht'
    cases ht'
    refine ⟨session.lastActivity, hreg, ?_⟩
    by_contra hold
    rw [State.cleanup, foldl_lookup, if_pos (mem_toRemove.mpr ⟨session, hlook, Nat.not_le.mp hold⟩)] at hkept
    cases hkept
  · intro hyoung id session task hact
    obtain ⟨r, hr, hle⟩ := hyoung id session task hact
    obtain ⟨hlook, ht, -⟩ := hact
    obtain ⟨task', ht', -, -, -, -, hreg⟩ := hs.entry id session hlook
    rw [ht] at ht'
    cases ht'
    obtain rfl : r = session.lastActivity := Option.some.inj (hr.symm.trans hreg)
    have hkeep : id ∉ s.toRemove := by
      intro hmem
      obtain ⟨session', hlook', hidle⟩ := mem_toRemove.mp hmem
      rw [hlook] at hlook'
      cases hlook'
      exact absurd hle (Nat.not_le.mpr hidle)
    refine ⟨?_, fun l hl => cleanup_listener hs hlook hkeep hl⟩
    rw [State.cleanup, foldl_lookup, if_neg hkeep]
    exact hlook

theorem active_sessions_survive_iff (X : Externals) (srv : ReverseProxyServer) (es : List Event) :
    (∀ s, Transitions.Occurs (step X srv) init es s .tick → SparesActive s) ↔
      ∀ s, Transitions.Occurs (step X srv) init es s .tick → ActiveAreYoung s := by
  have howned : ∀ s, Transitions.Occurs (step X srv) init es s .tick → Owned s := by
    rintro s ⟨before, after, -, hrun⟩
    exact run_owned hrun
  constructor
  · intro h s hs
    exact (sparesActive_iff (howned s hs)).mp (h s hs)
  · intro h s hs
    exact (sparesActive_iff (howned s hs)).mpr (h s hs)

def sampleBusyRun : List Event :=
  sampleSession ++ [.advance idleLimit, .task 0 (.request true), .advance (seconds 30)]

set_option maxRecDepth 8000 in
theorem busy_session_removed :
    ∃ s session task, Transitions.Occurs (step Bincode.sample sampleOpenServer) init
        (sampleBusyRun ++ [.tick]) s .tick ∧ ActiveSession s samplePeer session task ∧
      s.listeners[0]? = some ⟨.tcp, 8080, true⟩ ∧
      s.cleanup.clients.lookup samplePeer = none ∧ s.cleanup.listeners[0]? = some ⟨.tcp, 8080, false⟩ := by
  refine ⟨_, _, _, ⟨sampleBusyRun, [], rfl, rfl⟩, ⟨rfl, rfl, rfl, _, rfl, ?_⟩, rfl, rfl, rfl⟩
  decide

end GscFq.Sessions
