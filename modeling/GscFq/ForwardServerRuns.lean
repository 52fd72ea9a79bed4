import GscFq.ForwardServer
import GscFq.Lists

namespace GscFq.ForwardServer

open Broadcast GscFq.Lists RuntimeTasks

/-- What an event does to an instance. -/
inductive Turn (shutdown : Channel) (closed : Bool) (x : Instance) : InstanceEvent → Instance → Prop where
  | listens (starting : x.stage = .starting) :
      Turn shutdown closed x (.listen none) { x with running := true, stage := .bound }
  | listenFails {call : ListenCall} {e : IoError} (starting : x.stage = .starting) :
      Turn shutdown closed x (.listen (some (call, e)))
        { x with running := true, stage := .returned (.error (listenError x.proxy.bindAddr e call)) }
  | binds (bound : x.stage = .bound) :
      Turn shutdown closed x (.bindUdp none)
        { x with stage := .serving, udp := some ⟨shutdown.subscribe, true, 0⟩ }
  | bindFails {e : IoError} {reason : String} (bound : x.stage = .bound) :
      Turn shutdown closed x (.bindUdp (some e)) { x with stage := .returned (.error (listenFailed reason)) }
  | accept (serving : x.stage = .serving) :
      Turn shutdown closed x .accept { x with connections := x.connections + 1 }
  | idle {e : InstanceEvent} (retried : e = .acceptFails ∨ e = .datagramFails) : Turn shutdown closed x e x
  | datagram {u : UdpTask} (udp : x.udp = some u) (running : u.running = true) :
      Turn shutdown closed x .datagram { x with udp := some { u with packets := u.packets + 1 } }
  | stop (serving : x.stage = .serving) (fired : ready shutdown closed x.receiver = true) :
      Turn shutdown closed x .stop { x with
        running := false
        stage := .returned (.ok ())
        receiver := (shutdown.tryRecv x.receiver).2 }
  | stopUdp {u : UdpTask} (udp : x.udp = some u) (running : u.running = true)
      (fired : ready shutdown closed u.receiver = true) :
      Turn shutdown closed x .stopUdp
        { x with udp := some { u with running := false, receiver := (shutdown.tryRecv u.receiver).2 } }

theorem Instance.step_turn {shutdown : Channel} {closed : Bool} {x x' : Instance} {e : InstanceEvent}
    (h : x.step shutdown closed e = some x') : Turn shutdown closed x e x' := by
  cases e with
  | listen failed =>
    simp only [Instance.step] at h
    split at h
    · rename_i hst
      cases h
      exact .listens hst
    · rename_i hst
      cases h
      exact .listenFails hst
    · cases h
  | bindUdp failed =>
    simp only [Instance.step] at h
    split at h
    · rename_i hst
      cases h
      exact .binds hst
    · rename_i hst
      cases h
      exact .bindFails hst
    · cases h
  | accept =>
    simp only [Instance.step] at h
    split at h
    · rename_i hst
      cases h
      exact .accept hst
    · cases h
  | acceptFails =>
    simp only [Instance.step] at h
    split at h
    · cases h
      exact .idle (Or.inl rfl)
    · cases h
  | stop =>
    simp only [Instance.step] at h
    split at h
    · rename_i hc
      cases h
      exact .stop hc.1 hc.2
    · cases h
  | datagram =>
    obtain ⟨u, hu, h⟩ := Option.bind_eq_some_iff.mp h
    obtain ⟨u', hstep, rfl⟩ := Option.map_eq_some_iff.mp h
    simp only [UdpTask.step] at hstep
    split at hstep
    · rename_i hrun
      cases hstep
      exact .datagram hu hrun
    · cases hstep
  | datagramFails =>
    obtain ⟨u, hu, h⟩ := Option.bind_eq_some_iff.mp h
    obtain ⟨u', hstep, rfl⟩ := Option.map_eq_some_iff.mp h
    simp only [UdpTask.step] at hstep
    split at hstep
    · cases hstep
      rw [← hu]
      exact .idle (Or.inr rfl)
    · cases hstep
  | stopUdp =>
    obtain ⟨u, hu, h⟩ := Option.bind_eq_some_iff.mp h
    obtain ⟨u', hstep, rfl⟩ := Option.map_eq_some_iff.mp h
    simp only [UdpTask.step] at hstep
    split at hstep
    · rename_i hc
      cases hstep
      exact .stopUdp hu hc.1 hc.2
    · cases hstep

/-- The channel has one message after the signal. -/
structure TaskOk (shutdown : Channel) (x : Instance) : Prop where
  waits : x.ended = false → x.receiver.next = 0
  stopped : x.stage = .returned (.ok ()) → 0 < shutdown.tail
  unbound : x.stage = .starting ∨ x.stage = .bound → x.udp = none
  runs : x.stage = .bound ∨ x.stage = .serving → x.running = true
  serving : x.stage = .serving → ∃ u, x.udp = some u
  listening : ∀ u, x.udp = some u → u.receiver.next ≤ shutdown.tail ∧ (u.running = false → 0 < shutdown.tail)

theorem fired_sent {shutdown : Channel} {closed : Bool} {r : Receiver} (hclosed : closed = true → 0 < shutdown.tail)
    (h : ready shutdown closed r = true) : 0 < shutdown.tail := by
  rcases Bool.or_eq_true_iff.mp h with hp | hc
  · have hlt := of_decide_eq_true hp
    omega
  · exact hclosed hc

theorem tryRecv_le {shutdown : Channel} (hcap : shutdown.capacity = 1) {r : Receiver} (h : r.next ≤ shutdown.tail) :
    (shutdown.tryRecv r).2.next ≤ shutdown.tail := by
  unfold Channel.tryRecv
  split
  · exact h
  · split
    · simp only
      omega
    · simp only
      omega

theorem TaskOk.turn {shutdown : Channel} {closed : Bool} {x x' : Instance} {e : InstanceEvent}
    (hcap : shutdown.capacity = 1) (hclosed : closed = true → 0 < shutdown.tail) (hx : TaskOk shutdown x)
    (h : Turn shutdown closed x e x') : TaskOk shutdown x' := by
  cases h with
  | listens starting =>
    have hnone := hx.unbound (Or.inl starting)
    exact ⟨fun _ => hx.waits (by simp [Instance.ended, starting]), nofun, fun _ => hnone, fun _ => rfl, nofun,
      hx.listening⟩
  | listenFails starting => exact ⟨nofun, nofun, nofun, nofun, nofun, hx.listening⟩
  | binds bound =>
    have hruns := hx.runs (Or.inl bound)
    refine ⟨fun _ => hx.waits (by simp [Instance.ended, bound]), nofun, nofun, fun _ => hruns, fun _ => ⟨_, rfl⟩, ?_⟩
    intro u hu
    obtain rfl := Option.some.inj hu
    exact ⟨le_refl _, nofun⟩
  | bindFails bound => exact ⟨nofun, nofun, nofun, nofun, nofun, hx.listening⟩
  | accept serving => exact ⟨hx.waits, hx.stopped, hx.unbound, hx.runs, hx.serving, hx.listening⟩
  | idle => exact hx
  | @datagram u udp running =>
    refine ⟨hx.waits, hx.stopped, fun hs => ?_, hx.runs, fun _ => ⟨_, rfl⟩, ?_⟩
    · rw [hx.unbound hs] at udp
      cases udp
    · intro v hv
      obtain rfl := Option.some.inj hv
      exact hx.listening u udp
  | stop serving fired =>
    exact ⟨nofun, fun _ => fired_sent hclosed fired, nofun, nofun, nofun, hx.listening⟩
  | @stopUdp u udp running fired =>
    refine ⟨hx.waits, hx.stopped, fun hs => ?_, hx.runs, fun _ => ⟨_, rfl⟩, ?_⟩
    · rw [hx.unbound hs] at udp
      cases udp
    · intro v hv
      obtain rfl := Option.some.inj hv
      exact ⟨tryRecv_le hcap (hx.listening u udp).1, fun _ => fired_sent hclosed fired⟩

theorem TaskOk.send {shutdown : Channel} {x : Instance} (hx : TaskOk shutdown x) : TaskOk shutdown.send x := by
  refine ⟨hx.waits, fun _ => Nat.succ_pos _, hx.unbound, hx.runs, hx.serving, ?_⟩
  intro u hu
  exact ⟨Nat.le_succ_of_le (hx.listening u hu).1, fun _ => Nat.succ_pos _⟩

theorem Turn.proxy {shutdown : Channel} {closed : Bool} {x x' : Instance} {e : InstanceEvent}
    (h : Turn shutdown closed x e x') : x'.proxy = x.proxy := by cases h <;> rfl

theorem Turn.ended {shutdown : Channel} {closed : Bool} {x x' : Instance} {e : InstanceEvent}
    (h : Turn shutdown closed x e x') (hx : x.ended = true) : x'.ended = true := by
  have hst : x.stage ≠ .starting ∧ x.stage ≠ .bound ∧ x.stage ≠ .serving := by
    simp only [Instance.ended] at hx
    refine ⟨?_, ?_, ?_⟩ <;> rintro hst <;> simp [hst] at hx
  cases h with
  | listens starting | listenFails starting => exact absurd starting hst.1
  | binds bound | bindFails bound => exact absurd bound hst.2.1
  | accept serving | stop serving => exact absurd serving hst.2.2
  | idle | datagram | stopUdp => exact hx

/-- Before the signal the channel is empty, after it there is one message. -/
structure Inv (server : ProxyServer) (s : State) : Prop where
  bindIp : s.bindIp = server.bindIp
  capacity : s.shutdown.capacity = 1
  tail : s.shutdown.tail = if s.phase = .starting ∨ s.phase = .waiting then 0 else 1
  slots : s.proxyInstances.length = server.proxyInstances.length ∧ ∀ x ∈ s.proxyInstances, x.running = false
  unspawned : s.phase = .starting → s.proxyInstances.map (·.proxy) = server.proxyInstances ∧ s.tasks = []
  spawned : s.phase ≠ .starting → s.tasks.map (·.proxy) = server.proxyInstances
  ok : ∀ x ∈ s.tasks, TaskOk s.shutdown x
  ended : s.phase = .returned ∨ s.phase = .dropped → ∀ x ∈ s.tasks, x.ended = true

theorem init_inv (server : ProxyServer) : Inv server (init server) := by
  refine ⟨rfl, rfl, rfl, ⟨by simp [init], ?_⟩, fun _ => ⟨?_, rfl⟩, fun h => absurd rfl h, by simp [init], by simp [init]⟩
  · intro x hx
    obtain ⟨proxy, -, rfl⟩ := List.mem_map.mp hx
    rfl
  · simp [init, Function.comp_def]

theorem Inv.ofProxy {server : ProxyServer} {s : State} (hs : Inv server s) {i : ℕ} {x x' : Instance}
    {e : InstanceEvent} (hx : s.tasks[i]? = some x) (h : Turn s.shutdown (s.phase = .dropped) x e x') :
    Inv server { s with tasks := s.tasks.set i x' } := by
  have hmem := List.mem_of_getElem? hx
  have hclosed : decide (s.phase = .dropped) = true → 0 < s.shutdown.tail := by
    intro hd
    rw [hs.tail, of_decide_eq_true hd]
    decide
  refine ⟨hs.bindIp, hs.capacity, hs.tail, hs.slots, ?_, ?_, ?_, ?_⟩
  · intro hp
    rw [(hs.unspawned hp).2] at hx
    cases hx
  · intro hp
    rw [map_set_same (·.proxy) hx h.proxy]
    exact hs.spawned hp
  · intro y hy
    rcases List.mem_or_eq_of_mem_set hy with hy | rfl
    · exact hs.ok y hy
    · exact (hs.ok x hmem).turn hs.capacity hclosed h
  · intro hp y hy
    rcases List.mem_or_eq_of_mem_set hy with hy | rfl
    · exact hs.ended hp y hy
    · exact h.ended (hs.ended hp x hmem)

theorem Inv.step {server : ProxyServer} {s s' : State} {e : Event} (hs : Inv server s) (h : step s e = some s') :
    Inv server s' := by
  cases e with
  | spawn =>
    simp only [ForwardServer.step] at h
    split at h
    · rename_i hp
      cases h
      have htail := hs.tail
      rw [hp] at htail
      refine ⟨hs.bindIp, hs.capacity, htail, ⟨by rw [List.length_map]; exact hs.slots.1, ?_⟩, nofun, fun _ => ?_, ?_, by simp⟩
      · intro x hx
        obtain ⟨slot, -, rfl⟩ := List.mem_map.mp hx
        rfl
      · rw [List.map_map, ← (hs.unspawned hp).1]
        rfl
      · intro x hx
        obtain ⟨slot, -, rfl⟩ := List.mem_map.mp hx
        exact ⟨fun _ => htail, nofun, fun _ => rfl, by simp [Slot.spawned], nofun, nofun⟩
    · cases h
  | proxy i e =>
    obtain ⟨x, hx, h⟩ := Option.bind_eq_some_iff.mp h
    obtain ⟨x', hstep, rfl⟩ := Option.map_eq_some_iff.mp h
    exact hs.ofProxy hx (Instance.step_turn hstep)
  | signal =>
    simp only [ForwardServer.step] at h
    split at h
    · rename_i hp
      cases h
      have htail := hs.tail
      rw [hp] at htail
      refine ⟨hs.bindIp, hs.capacity, congrArg (· + 1) htail, hs.slots, nofun, ?_, ?_, by simp⟩
      · exact fun _ => hs.spawned (by rw [hp]; decide)
      · exact fun x hx => (hs.ok x hx).send
    · cases h
  | join =>
    simp only [ForwardServer.step] at h
    split at h
    · rename_i hc
      cases h
      have htail := hs.tail
      rw [hc.1] at htail
      exact ⟨hs.bindIp, hs.capacity, htail, hs.slots, nofun, fun _ => hs.spawned (by rw [hc.1]; decide), hs.ok,
        fun _ => List.all_eq_true.mp hc.2⟩
    · cases h
  | drop =>
    simp only [ForwardServer.step] at h
    split at h
    · rename_i hp
      cases h
      have htail := hs.tail
      rw [hp] at htail
      exact ⟨hs.bindIp, hs.capacity, htail, hs.slots, nofun, fun _ => hs.spawned (by rw [hp]; decide), hs.ok,
        fun _ => hs.ended (Or.inl hp)⟩
    · cases h

theorem run_inv {server : ProxyServer} {es : List Event} {s : State} (h : run server es = some s) : Inv server s :=
  Transitions.run_invariant h (init_inv server) (fun _ _ _ hs he => hs.step he)

end GscFq.ForwardServer
