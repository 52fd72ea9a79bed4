import GscFq.AddressText
import GscFq.PortAllocation

namespace GscFq

namespace HandleClient

variable {X : Externals} {srv : ReverseProxyServer} {instant : ℕ} {task task' : Task} {e : Event} {eff : Effect}

theorem parse_bindAddr (port : UInt16) : IpAddr.parseSocketAddr (bindAddr port) = some (.new (.v4 0 0 0 0) port) := by
  have htext : (bindAddr port).toList =
      ['0', '.', '0', '.', '0', '.', '0'] ++ ':' :: Nat.toDigits 10 port.toNat := by
    have hip : bindIp.display = "0.0.0.0" := by decide
    simp [bindAddr, hip]
  have hip : IpAddr.readIpv4Addr (['0', '.', '0', '.', '0', '.', '0'] ++ ':' :: Nat.toDigits 10 port.toNat) =
      some ((0, 0, 0, 0), ':' :: Nat.toDigits 10 port.toNat) := rfl
  simp only [IpAddr.parseSocketAddr, IpAddr.parseWith, htext, IpAddr.readSocketAddr, hip, Option.bind_some,
    IpAddr.readPort_toDigits, Option.map_some]
  rfl

def Stage.pending : Stage → List UInt16
  | .bindTcp todo => todo.map (·.serverPort)
  | .bindUdp port todo => port :: todo.map (·.serverPort)
  | _ => []

theorem pending_of_todo {stage : Stage} (h : stage.todo = none) : stage.pending = [] := by
  cases stage with
  | bindTcp | bindUdp => cases h
  | hello | serving | leaving | returned => rfl

theorem afterHello_pending (now : UInt64) (r : ReverseProxyServer.HandshakeResult) :
    ∀ p ∈ (afterHello task now r).stage.pending, p ∈ (afterHello task now r).proxies.map (·.serverPort) := by
  unfold afterHello
  cases r.outcome with
  | error e => simp [Stage.pending]
  | ok proxies => exact fun p hp => hp

theorem step_pending (h : step X srv instant task e = some (task', eff)) :
    (task.stage = .hello ∧ eff = .none ∧ task'.spawned = task.spawned ∧
      ∀ p ∈ task'.stage.pending, p ∈ task'.proxies.map (·.serverPort)) ∨
    (task'.stage = .hello → task.stage = .hello) ∧ task'.proxies = task.proxies ∧ task'.spawned = task.spawned ∧
      (∀ p ∈ task'.stage.pending, p ∈ task.stage.pending) ∧
      ∀ transport port, eff = .spawn transport port → port ∈ task.stage.pending := by
  rcases step_binds h with ⟨stage, hb, rfl⟩ | ⟨hs, rfl, now, r, rfl⟩ | ⟨hprox, hsp, hspawn, hstage⟩
  · generalize task.stage = before at hb
    right
    cases hb with
    | tcpFailed => exact ⟨by simp, rfl, rfl, fun p hp => List.mem_cons_of_mem _ hp, by simp⟩
    | tcp => exact ⟨by simp, rfl, rfl, fun p hp => hp, by simp [Stage.pending]⟩
    | udpFailed | udp => exact ⟨by simp, rfl, rfl, fun p hp => List.mem_cons_of_mem _ hp, by simp [Stage.pending]⟩
  · exact Or.inl ⟨hs, rfl, by unfold afterHello; cases r.outcome <;> rfl, afterHello_pending now r⟩
  · refine Or.inr ⟨?_, hprox, hsp, ?_, fun transport port heff => absurd heff (hspawn transport port)⟩
    · rcases hstage with ⟨hsame, -⟩ | ⟨-, hne⟩
      · rw [hsame]
        exact id
      · exact fun hhello => absurd hhello hne
    · intro p hp
      rcases hstage with ⟨hsame, -⟩ | ⟨hnone, -⟩
      · exact hsame ▸ hp
      · rw [pending_of_todo hnone] at hp
        cases hp

end HandleClient

namespace Sessions

open HandleClient

variable {X : Externals} {srv : ReverseProxyServer}

theorem foldl_ports (ids : List ClientId) {s : State} {l : ListenerId} {x : Listener}
    (h : (ids.foldl State.removeClient s).listeners[l]? = some x) :
    ∃ y, s.listeners[l]? = some y ∧ x.port = y.port := by
  induction ids generalizing s with
  | nil => exact ⟨x, h, rfl⟩
  | cons id ids ih =>
    obtain ⟨y, hy, hport⟩ := ih h
    rcases removeClient_cases s id with ⟨-, he⟩ | ⟨session, -, he⟩
    · rw [he] at hy
      exact ⟨y, hy, hport⟩
    · rw [he] at hy
      obtain ⟨z, hz, rfl⟩ := abort_get hy
      refine ⟨z, hz, hport.trans ?_⟩
      split <;> rfl

theorem apply_ports {s : State} {t : TaskId} {task : Task} {eff : Effect} {l : ListenerId} {x : Listener}
    (h : (s.apply t task eff).listeners[l]? = some x) :
    (∃ y, s.listeners[l]? = some y ∧ x.port = y.port) ∨
      (l = s.listeners.length ∧ ∃ transport, eff = .spawn transport x.port) := by
  cases eff with
  | none | insert => exact Or.inl ⟨x, h, rfl⟩
  | spawn transport port =>
    have h' : (s.listeners ++ [⟨transport, port, true⟩])[l]? = some x := h
    rw [List.getElem?_append] at h'
    split at h'
    · exact Or.inl ⟨x, h', rfl⟩
    · rename_i hlt
      have hle : l - s.listeners.length < 1 := (List.getElem?_eq_some_iff.mp h').1
      have hlast : l = s.listeners.length :=
        Nat.le_antisymm (Nat.sub_eq_zero_iff_le.mp (Nat.lt_one_iff.mp hle)) (Nat.not_lt.mp hlt)
      obtain rfl := List.mem_singleton.mp (List.mem_of_getElem? h')
      exact Or.inr ⟨hlast, transport, rfl⟩
  | remove =>
    rw [apply_remove] at h
    exact Or.inl (foldl_ports [task.addr] h)

structure Requested (s : State) (task : Task) : Prop where
  opening : task.stage = .hello → task.spawned = []
  pending : ∀ p ∈ task.stage.pending, p ∈ task.proxies.map (·.serverPort)
  opened : ∀ l ∈ task.spawned, ∀ x, s.listeners[l]? = some x → x.port ∈ task.proxies.map (·.serverPort)

theorem Requested.of_ports {s s' : State} {task : Task} (hr : Requested s task)
    (hports : ∀ l ∈ task.spawned, ∀ x, s'.listeners[l]? = some x → ∃ y, s.listeners[l]? = some y ∧ x.port = y.port) :
    Requested s' task := by
  refine ⟨hr.opening, hr.pending, ?_⟩
  intro l hl x hx
  obtain ⟨y, hy, he⟩ := hports l hl x hx
  exact he ▸ hr.opened l hl y hy

theorem Requested.other {s : State} {t u : TaskId} (hs : Owned s) {task new : Task} {eff : Effect}
    (hr : Requested s task) (ht : s.tasks[t]? = some task) : Requested (s.apply u new eff) task := by
  apply hr.of_ports
  intro l hl x hx
  rcases apply_ports hx with hold | ⟨hnew, -⟩
  · exact hold
  · exact absurd (hs.spawned.lt t task ht l hl) (by rw [hnew]; exact lt_irrefl _)

theorem Requested.self {s : State} {t : TaskId} {task task' b : Task} {e : HandleClient.Event}
    {eff : Effect} (hr : Requested s task) (ht : s.tasks[t]? = some task)
    (h : HandleClient.step X srv s.now task e = some (task', eff))
    (hget : (s.apply t task' eff).tasks[t]? = some b) : Requested (s.apply t task' eff) b := by
  obtain rfl := apply_self ht hget
  rcases step_pending h with ⟨hstage, rfl, hsp, hpend⟩ | ⟨hstage, hprox, hsp, hpend, hspawn⟩
  · have hempty : task'.spawned ++ Effect.spawned s .none = [] := by
      rw [hsp, hr.opening hstage]
      rfl
    refine ⟨fun _ => hempty, hpend, ?_⟩
    intro l hl x _
    exact absurd (hempty ▸ hl) (by simp)
  · have hpending : ∀ p ∈ task.stage.pending, p ∈ task'.proxies.map (·.serverPort) := by
      rw [hprox]
      exact hr.pending
    refine ⟨?_, fun p hp => hpending p (hpend p hp), ?_⟩
    · intro hhello
      have hopen := hstage hhello
      apply List.eq_nil_iff_forall_not_mem.mpr
      intro l hl
      rcases List.mem_append.mp hl with hl | hl
      · simp [hsp, hr.opening hopen] at hl
      · obtain ⟨-, transport, port, heff⟩ := mem_effect_spawned hl
        have hbad := hspawn transport port heff
        simp [hopen, Stage.pending] at hbad
    · intro l hl x hx
      rcases apply_ports hx with ⟨y, hy, he⟩ | ⟨-, transport, heff⟩
      · have hlt := (List.getElem?_eq_some_iff.mp hy).1
        rcases List.mem_append.mp hl with hl | hl
        · have hold := hr.opened l (hsp ▸ hl) y hy
          rw [← hprox, ← he] at hold
          exact hold
        · exact absurd (mem_effect_spawned hl).1 (Nat.ne_of_lt hlt)
      · exact hpending _ (hspawn transport x.port heff)

def AllRequested (s : State) : Prop :=
  ∀ (t : TaskId) (task : Task), s.tasks[t]? = some task → Requested s task

theorem AllRequested.step {s s' : State} {e : Event} (hs : Owned s) (hr : AllRequested s)
    (h : step X srv s e = some s') : AllRequested s' := by
  intro t b ht
  cases e with
  | advance nanos =>
    simp only [Sessions.step, Option.some.injEq] at h
    subst h
    exact (hr t b ht).of_ports (fun l _ x hx => ⟨x, hx, rfl⟩)
  | tick =>
    simp only [Sessions.step, Option.some.injEq] at h
    subst h
    rw [cleanup_tasks] at ht
    exact (hr t b ht).of_ports (fun l _ x hx => foldl_ports _ hx)
  | accept addr =>
    simp only [Sessions.step, Option.some.injEq] at h
    subst h
    rcases get_accept ht with ht | ⟨-, rfl⟩
    · exact (hr t b ht).of_ports (fun l _ x hx => ⟨x, hx, rfl⟩)
    · exact ⟨fun _ => rfl, by simp [Task.start, Stage.pending], by simp [Task.start]⟩
  | task u e =>
    obtain ⟨task, task', eff, hu, hp, rfl⟩ := step_task_eq h
    by_cases hut : t = u
    · subst hut
      exact (hr t task hu).self hu hp ht
    · rcases apply_get hu ht with ⟨-, hold⟩ | ⟨htu, -⟩
      · exact (hr t b hold).other hs hold
      · exact absurd htu hut

theorem run_requested {es : List Event} {s : State} (h : run X srv es = some s) : AllRequested s := by
  have hboth : Owned s ∧ AllRequested s := by
    apply Transitions.run_invariant (I := fun s => Owned s ∧ AllRequested s) h
    · exact ⟨init_owned, fun t task ht => by simp [init] at ht⟩
    · rintro u e v ⟨hu, hr⟩ he
      exact ⟨hu.step he, hr.step hu he⟩
  exact hboth.2

end Sessions

end GscFq
