import GscFq.ForwardServerRuns

namespace GscFq.ForwardServer

open Broadcast GscFq.Lists RuntimeTasks

/-- In every run the status counts all instances and none of them as active, each instance that has bound its two
sockets serves on them until the signal, and no instance is left when `start` returns. -/
theorem forward_server_serves {server : ProxyServer} {es : List Event} {s : State} (h : run server es = some s) :
    s.getStatus = ⟨server.bindIp, server.proxyInstances.length, 0⟩ ∧
      (s.phase ≠ .starting → s.tasks.map (·.proxy) = server.proxyInstances) ∧
      (s.phase = .waiting → ∀ x ∈ s.tasks, x.stage ≠ .returned (.ok ()) ∧
        (x.stage = .serving → x.running = true ∧ ∃ u, x.udp = some u ∧ u.running = true)) ∧
      (s.phase = .returned ∨ s.phase = .dropped → ∀ x ∈ s.tasks, ∃ result, x.stage = .returned result) := by
  have hs := run_inv h
  refine ⟨?_, hs.spawned, ?_, ?_⟩
  · have hnone : s.proxyInstances.countP (·.running) = 0 := by
      rw [List.countP_eq_zero]
      intro x hx
      simp [hs.slots.2 x hx]
    rw [State.getStatus, hs.bindIp, hs.slots.1, hnone]
  · intro hp x hx
    have htail := hs.tail
    rw [if_pos (Or.inr hp)] at htail
    have hok := hs.ok x hx
    refine ⟨fun hst => ?_, fun hst => ⟨hok.runs (Or.inr hst), ?_⟩⟩
    · have hpos := hok.stopped hst
      omega
    · obtain ⟨u, hu⟩ := hok.serving hst
      refine ⟨u, hu, ?_⟩
      by_contra hne
      have hpos := (hok.listening u hu).2 (by simpa using hne)
      omega
  · intro hp x hx
    have hend := hs.ended hp x hx
    simp only [Instance.ended] at hend
    split at hend
    · rename_i result hst
      exact ⟨result, hst⟩
    · cases hend

def sampleServer : ProxyServer :=
  ⟨.v4 127 0 0 1, [⟨.new (.v4 0 0 0 0) 8080, .new (.v4 10 0 0 2) 80, none, none, none, none⟩]⟩

/-- The signal comes between the two sockets of the instance. -/
def sampleSignal : List Event := [.spawn, .proxy 0 (.listen none), .signal]

def sampleReturn : List Event := sampleSignal ++ [.proxy 0 (.bindUdp none), .proxy 0 .stop, .join]

theorem sample_serves : ∃ s, run sampleServer sampleReturn = some s ∧ s.getStatus = ⟨.v4 127 0 0 1, 1, 0⟩ ∧
    ∀ x ∈ s.tasks, ∃ result, x.stage = .returned result := by
  obtain ⟨s, hs, hp⟩ : ∃ s, run sampleServer sampleReturn = some s ∧ s.phase = .returned := ⟨_, rfl, rfl⟩
  have hserves := forward_server_serves hs
  exact ⟨s, hs, hserves.1, hserves.2.2.2 (Or.inl hp)⟩

def Stage.rank : Stage → ℕ
  | .starting => 4
  | .bound => 3
  | .serving => 1
  | .returned _ => 0

def UdpTask.rank (u : UdpTask) : ℕ := if u.running then 1 else 0

def Instance.rank (x : Instance) : ℕ := x.stage.rank + (x.udp.map UdpTask.rank).getD 0

def Phase.rank : Phase → ℕ
  | .starting => 4
  | .waiting => 3
  | .stopping => 2
  | .returned => 1
  | .dropped => 0

def InstanceEvent.arrival : InstanceEvent → Bool
  | .accept => true
  | .acceptFails => true
  | .datagram => true
  | .datagramFails => true
  | _ => false

def Event.arrival : Event → Bool
  | .proxy _ e => e.arrival
  | _ => false

theorem Turn.rank_lt {shutdown : Channel} {closed : Bool} {x x' : Instance} {e : InstanceEvent}
    (hx : TaskOk shutdown x) (h : Turn shutdown closed x e x') (he : e.arrival = false) : x'.rank < x.rank := by
  cases h with
  | listens starting | listenFails starting | bindFails starting =>
    simp [Instance.rank, Stage.rank, starting]
  | binds bound =>
    have hnone := hx.unbound (Or.inr bound)
    simp [Instance.rank, Stage.rank, UdpTask.rank, bound, hnone]
  | accept | datagram => cases he
  | idle retried => rcases retried with rfl | rfl <;> cases he
  | stop serving => simp [Instance.rank, Stage.rank, serving]
  | stopUdp udp running => simp [Instance.rank, UdpTask.rank, udp, running]

def State.After (s : State) : Prop := s.phase = .stopping ∨ s.phase = .returned ∨ s.phase = .dropped

theorem State.After.step {s t : State} {e : Event} (hs : s.After) (h : step s e = some t) : t.After := by
  cases e with
  | proxy i e =>
    obtain ⟨x, hx, h⟩ := Option.bind_eq_some_iff.mp h
    obtain ⟨x', hstep, rfl⟩ := Option.map_eq_some_iff.mp h
    exact hs
  | spawn | signal =>
    simp only [ForwardServer.step] at h
    split at h
    · rename_i hp
      rcases hs with hs | hs | hs <;> rw [hp] at hs <;> cases hs
    · cases h
  | join =>
    simp only [ForwardServer.step] at h
    split at h
    · cases h
      exact Or.inr (Or.inl rfl)
    · cases h
  | drop =>
    simp only [ForwardServer.step] at h
    split at h
    · cases h
      exact Or.inr (Or.inr rfl)
    · cases h

theorem Inv.sent {server : ProxyServer} {s : State} (hs : Inv server s) (ha : s.After) : s.shutdown.tail = 1 := by
  have htail := hs.tail
  rcases ha with hp | hp | hp <;> rw [hp] at htail <;> exact htail

end GscFq.ForwardServer
