import GscFq.GateInvariant

namespace GscFq

namespace HandleClient

def Stage.todo : Stage → Option (List ReverseProxyConfig)
  | .bindTcp todo => some todo
  | .bindUdp _ todo => some todo
  | _ => none

variable {X : Externals} {srv : ReverseProxyServer} {instant : ℕ} {task task' : Task} {e : Event} {eff : Effect}

theorem phase_of_todo {stage : Stage} {todo : List ReverseProxyConfig} (h : stage.todo = some todo) :
    stage.phase = .binding := by
  cases stage with
  | bindTcp | bindUdp => rfl
  | hello | serving | leaving | returned => cases h

theorem afterHello_todo {now : UInt64} {r : ReverseProxyServer.HandshakeResult} {todo : List ReverseProxyConfig}
    (h : (afterHello task now r).stage.todo = some todo) : (afterHello task now r).proxies = todo := by
  unfold afterHello at h ⊢
  cases ho : r.outcome with
  | error e =>
    rw [ho] at h
    cases h
  | ok proxies =>
    rw [ho] at h
    exact Option.some.inj h

inductive Binds : Event → Stage → Stage → Effect → Prop where
  | tcpFailed {c : ReverseProxyConfig} {todo : List ReverseProxyConfig} :
      Binds (.bindTcp false) (.bindTcp (c :: todo)) (.bindTcp todo) .none
  | tcp {c : ReverseProxyConfig} {todo : List ReverseProxyConfig} :
      Binds (.bindTcp true) (.bindTcp (c :: todo)) (.bindUdp c.serverPort todo) (.spawn .tcp c.serverPort)
  | udpFailed {port : UInt16} {todo : List ReverseProxyConfig} :
      Binds (.bindUdp false) (.bindUdp port todo) (.bindTcp todo) .none
  | udp {port : UInt16} {todo : List ReverseProxyConfig} :
      Binds (.bindUdp true) (.bindUdp port todo) (.bindTcp todo) (.spawn .udp port)

theorem step_binds (h : step X srv instant task e = some (task', eff)) :
    (∃ stage, Binds e task.stage stage eff ∧ task' = { task with stage := stage }) ∨
    (task.stage = .hello ∧ eff = .none ∧ ∃ now r, task' = afterHello task now r) ∨
    (task'.proxies = task.proxies ∧ task'.spawned = task.spawned ∧ (∀ transport port, eff ≠ .spawn transport port) ∧
      ((task'.stage = task.stage ∧ eff = .none) ∨ (task'.stage.todo = none ∧ task'.stage ≠ .hello))) := by
  cases e with
  | bindTcp bound =>
    simp only [step] at h
    split at h
    · rename_i c todo hs
      rw [hs]
      cases bound <;> cases h
      · exact Or.inl ⟨_, .tcpFailed, rfl⟩
      · exact Or.inl ⟨_, .tcp, rfl⟩
    · cases h
  | bindUdp bound =>
    simp only [step] at h
    split at h
    · rename_i port todo hs
      rw [hs]
      cases bound <;> cases h
      · exact Or.inl ⟨_, .udpFailed, rfl⟩
      · exact Or.inl ⟨_, .udp, rfl⟩
    · cases h
  | hello now stamp broken =>
    simp only [step] at h
    split at h
    · rename_i hs
      obtain ⟨r, -, he⟩ := Option.map_eq_some_iff.mp h
      cases he
      exact Or.inr (Or.inl ⟨hs, rfl, now, r, rfl⟩)
    · cases h
  | recv | close | request | inbound =>
    simp only [step] at h
    split at h
    · cases h
      exact Or.inr (Or.inr ⟨rfl, rfl, by simp, Or.inl ⟨rfl, rfl⟩⟩)
    · cases h
  | store | disconnect | leave =>
    simp only [step] at h
    split at h
    · cases h
      exact Or.inr (Or.inr ⟨rfl, rfl, by simp, Or.inr ⟨rfl, by simp⟩⟩)
    · cases h

theorem step_todo (h : step X srv instant task e = some (task', eff)) {todo : List ReverseProxyConfig}
    (ht : task'.stage.todo = some todo) :
    (task.stage = .hello ∧ task'.proxies = todo) ∨
    (task'.proxies = task.proxies ∧ task'.spawned = task.spawned ∧
      ((task.stage.todo = some todo ∧ eff ≠ .remove) ∨
        ∃ c, task.stage = .bindTcp (c :: todo) ∧
          (e = .bindTcp false ∨ eff = .spawn .tcp c.serverPort))) := by
  rcases step_binds h with ⟨stage, hb, rfl⟩ | ⟨hs, -, now, r, rfl⟩ | ⟨hprox, hsp, -, hstage⟩
  · generalize hs : task.stage = before at hb
    cases hb with
    | tcpFailed | tcp =>
      obtain rfl := Option.some.inj ht
      exact Or.inr ⟨rfl, rfl, Or.inr ⟨_, rfl, by simp⟩⟩
    | udpFailed | udp => exact Or.inr ⟨rfl, rfl, Or.inl ⟨ht, by simp⟩⟩
  · exact Or.inl ⟨hs, afterHello_todo ht⟩
  · rcases hstage with ⟨hsame, rfl⟩ | ⟨hnone, -⟩
    · exact Or.inr ⟨hprox, hsp, Or.inl ⟨hsame ▸ ht, by simp⟩⟩
    · rw [hnone] at ht
      cases ht

end HandleClient

namespace Sessions

open HandleClient

variable {X : Externals} {srv : ReverseProxyServer}

def Listening (s : State) (handles : List ListenerId) (port : UInt16) : Prop :=
  ∃ l ∈ handles, s.listeners[l]? = some ⟨.tcp, port, true⟩

/-- The bind loop has a listener for each configuration it has passed, and so has a stored session
for each of its configurations. -/
structure Bound (s : State) (t : TaskId) : Prop where
  passed : ∀ (task : Task) (todo : List ReverseProxyConfig), s.tasks[t]? = some task → task.stage.todo = some todo →
    ∃ done, task.proxies = done ++ todo ∧ ∀ c ∈ done, Listening s task.spawned c.serverPort
  stored : ∀ id session, s.clients.lookup id = some session → session.owner = t →
    ∀ c ∈ session.proxies, Listening s session.listeners c.serverPort

theorem Listening.mono {s s' : State} {handles handles' : List ListenerId} {port : UInt16}
    (h : Listening s handles port) (hsub : ∀ l ∈ handles, l ∈ handles')
    (hkeep : ∀ l ∈ handles, ∀ x, s.listeners[l]? = some x → s'.listeners[l]? = some x) :
    Listening s' handles' port := by
  obtain ⟨l, hl, hx⟩ := h
  exact ⟨l, hsub l hl, hkeep l hl _ hx⟩

theorem apply_listeners {s : State} {eff : Effect} (h : eff ≠ .remove) (t : TaskId) (task : Task) {l : ListenerId}
    {x : Listener} (hx : s.listeners[l]? = some x) : (s.apply t task eff).listeners[l]? = some x := by
  cases eff with
  | none | insert => exact hx
  | spawn transport port =>
    have hlt := (List.getElem?_eq_some_iff.mp hx).1
    exact (List.getElem?_append_left hlt).trans hx
  | remove => exact absurd rfl h

theorem removeClient_keeps {s : State} (hs : Owned s) {t : TaskId} {task : Task} (ht : s.tasks[t]? = some task)
    {id : ClientId} (hid : ∀ session, s.clients.lookup id = some session → session.owner ≠ t) {l : ListenerId}
    (hl : l ∈ task.spawned) {x : Listener} (hx : s.listeners[l]? = some x) :
    (s.removeClient id).listeners[l]? = some x := by
  refine (removeClient_listener ?_).trans hx
  intro session hlook hmem
  obtain ⟨owner, howner, -, -, hlis, -⟩ := hs.entry id session hlook
  exact hid session hlook (hs.spawned.once _ _ owner task l howner ht (hlis ▸ hmem) hl)

theorem Owned.same_id {s : State} (hs : Owned s) {id id' : ClientId} {a b : ClientSession}
    (ha : s.clients.lookup id = some a) (hb : s.clients.lookup id' = some b) (h : a.owner = b.owner) : id = id' := by
  obtain ⟨c, hc, hca, -⟩ := hs.entry id a ha
  obtain ⟨d, hd, hda, -⟩ := hs.entry id' b hb
  rw [h, hd] at hc
  cases hc
  exact hca.symm.trans hda

theorem Bound.removeClient {s : State} {t : TaskId} (hs : Owned s) (hb : Bound s t) (id : ClientId) :
    Bound (s.removeClient id) t := by
  constructor
  · intro task todo ht htodo
    rw [removeClient_tasks] at ht
    obtain ⟨done, hp, hl⟩ := hb.passed task todo ht htodo
    have hid : ∀ session, s.clients.lookup id = some session → session.owner ≠ t := by
      rintro session hlook rfl
      obtain ⟨task', ht', -, hreg, -⟩ := hs.entry id session hlook
      rw [ht] at ht'
      cases ht'
      rw [phase_of_todo htodo] at hreg
      cases hreg
    exact ⟨done, hp, fun c hc => (hl c hc).mono (fun _ h => h) (fun l hl x hx => removeClient_keeps hs ht hid hl hx)⟩
  · intro id' session hlook howner c hc
    have hne : id' ≠ id := by
      rintro rfl
      rw [removeClient_lookup_self] at hlook
      cases hlook
    rw [removeClient_lookup_ne s hne] at hlook
    obtain ⟨task, ht, -, -, hlis, -⟩ := hs.entry id' session hlook
    rw [howner] at ht
    have hid : ∀ other, s.clients.lookup id = some other → other.owner ≠ t := fun other hother ho =>
      hne (hs.same_id hlook hother (howner.trans ho.symm))
    exact (hb.stored id' session hlook howner c hc).mono (fun _ h => h)
      (fun l hl x hx => removeClient_keeps hs ht hid (hlis ▸ hl) hx)

theorem Bound.stored_apply {s : State} {t u : TaskId} (hs : Owned s) (hb : Bound s t) (new : Task) {eff : Effect}
    (hne : eff = .insert → t ≠ u) : ∀ id session, (s.apply u new eff).clients.lookup id = some session →
      session.owner = t → ∀ c ∈ session.proxies, Listening (s.apply u new eff) session.listeners c.serverPort := by
  intro id session hlook howner c hc
  by_cases hrem : eff = .remove
  · subst hrem
    rw [apply_remove] at hlook ⊢
    exact (hb.removeClient hs new.addr).stored id session hlook howner c hc
  · have hlook' : s.clients.lookup id = some session := by
      cases eff with
      | none | spawn => exact hlook
      | insert =>
        by_cases hid : id = new.addr
        · subst hid
          have hse := Option.some.inj (hlook.symm.trans (AList.lookup_insert s.clients))
          rw [hse] at howner
          exact absurd howner.symm (hne rfl)
        · exact (AList.lookup_insert_ne hid).symm.trans hlook
      | remove => exact absurd rfl hrem
    exact (hb.stored id session hlook' howner c hc).mono (fun _ h => h)
      (fun l _ x hx => apply_listeners hrem u new hx)

theorem Bound.other {s : State} {t u : TaskId} (hs : Owned s) (hb : Bound s t) {old new : Task} {eff : Effect}
    (hu : s.tasks[u]? = some old) (hne : t ≠ u) : Bound (s.apply u new eff) t := by
  refine ⟨?_, hb.stored_apply hs new (fun _ => hne)⟩
  intro task todo ht htodo
  rcases apply_get hu ht with ⟨-, hold⟩ | ⟨htu, -⟩
  · by_cases hrem : eff = .remove
    · subst hrem
      rw [apply_remove]
      exact (hb.removeClient hs new.addr).passed task todo (by rw [removeClient_tasks]; exact hold) htodo
    · obtain ⟨done, hp, hl⟩ := hb.passed task todo hold htodo
      exact ⟨done, hp, fun c hc => (hl c hc).mono (fun _ h => h) (fun l _ x hx => apply_listeners hrem u new hx)⟩
  · exact absurd htu hne

theorem Bound.passed_self {s : State} {t : TaskId} (hb : Bound s t) {task task' : Task} {e : HandleClient.Event}
    {eff : Effect} (ht : s.tasks[t]? = some task) (h : HandleClient.step X srv s.now task e = some (task', eff))
    (he : e ≠ .bindTcp false) {b : Task} {todo : List ReverseProxyConfig}
    (hget : (s.apply t task' eff).tasks[t]? = some b) (htodo : b.stage.todo = some todo) :
    ∃ done, b.proxies = done ++ todo ∧ ∀ c ∈ done, Listening (s.apply t task' eff) b.spawned c.serverPort := by
  obtain rfl := apply_self ht hget
  rcases step_todo h htodo with ⟨-, hp⟩ | ⟨hp, hsp, ⟨hold, hrem⟩ | ⟨c, hstage, hfail | rfl⟩⟩
  · exact ⟨[], hp, by simp⟩
  · obtain ⟨done, hpd, hl⟩ := hb.passed task todo ht hold
    refine ⟨done, hp.trans hpd, fun c hc => (hl c hc).mono ?_ (fun l _ x hx => apply_listeners hrem t task' hx)⟩
    intro l hmem
    exact List.mem_append_left _ (hsp.symm ▸ hmem)
  · exact absurd hfail he
  · obtain ⟨done, hpd, hl⟩ := hb.passed task (c :: todo) ht (by rw [hstage]; rfl)
    refine ⟨done ++ [c], by rw [List.append_assoc]; exact hp.trans hpd, ?_⟩
    intro d hd
    rcases List.mem_append.mp hd with hd | hd
    · refine (hl d hd).mono ?_ (fun l _ x hx => apply_listeners (by simp) t task' hx)
      intro l hmem
      exact List.mem_append_left _ (hsp.symm ▸ hmem)
    · obtain rfl := List.mem_singleton.mp hd
      exact ⟨s.listeners.length, List.mem_append_right _ (by simp [Effect.spawned]), by simp [State.apply]⟩

theorem Bound.self {s : State} {t : TaskId} (hs : Owned s) (hb : Bound s t) {task task' : Task}
    {e : HandleClient.Event} {eff : Effect} (ht : s.tasks[t]? = some task)
    (h : HandleClient.step X srv s.now task e = some (task', eff)) (he : e ≠ .bindTcp false) :
    Bound (s.apply t task' eff) t := by
  refine ⟨fun b todo hget htodo => hb.passed_self ht h he hget htodo, ?_⟩
  by_cases hins : eff = .insert
  · subst hins
    intro id session hlook howner c hc
    cases step_move h with
    | store hstage =>
      obtain ⟨done, hp, hl⟩ := hb.passed task [] ht (by rw [hstage]; rfl)
      rw [List.append_nil] at hp
      by_cases hid : id = task.addr
      · subst hid
        obtain rfl := Option.some.inj (hlook.symm.trans (AList.lookup_insert s.clients))
        exact (hl c (hp ▸ hc)).mono (fun _ h => h) (fun l _ x hx => hx)
      · have hlook' := (AList.lookup_insert_ne hid).symm.trans hlook
        obtain ⟨owner, ho, -, hreg, -⟩ := hs.entry id session hlook'
        rw [howner, ht] at ho
        cases ho
        rw [hstage] at hreg
        cases hreg
  · exact hb.stored_apply hs task' (fun hi => absurd hi hins)

theorem Bound.step {s s' : State} {t : TaskId} {e : Event} (hs : Owned s) (hb : Bound s t)
    (he : e ≠ .task t (.bindTcp false)) (h : step X srv s e = some s') : Bound s' t := by
  cases e with
  | advance nanos =>
    simp only [Sessions.step, Option.some.injEq] at h
    subst h
    exact ⟨hb.passed, hb.stored⟩
  | tick =>
    simp only [Sessions.step, Option.some.injEq] at h
    subst h
    exact (foldl_removeClient (fun s => Owned s ∧ Bound s t)
      (fun _ id h => ⟨h.1.removeClient id, h.2.removeClient h.1 id⟩) _ ⟨hs, hb⟩).2
  | accept addr =>
    simp only [Sessions.step, Option.some.injEq] at h
    subst h
    refine ⟨?_, hb.stored⟩
    intro task todo ht htodo
    rcases get_accept ht with ht | ⟨-, rfl⟩
    · exact hb.passed task todo ht htodo
    · cases htodo
  | task u e =>
    obtain ⟨task, task', eff, hu, hp, rfl⟩ := step_task_eq h
    by_cases hut : t = u
    · subst hut
      exact hb.self hs hu hp (fun hbad => he (hbad ▸ rfl))
    · exact hb.other hs hu hut

end Sessions

end GscFq
