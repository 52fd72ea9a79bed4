import GscFq.ClientTunnels

namespace GscFq.ClientTunnels

open ByteStream Tunnel

variable {configs : List ReverseProxyConfig}

/-- What a task has done is what the handler does on a stream that was the task's own at some time. -/
def Acted (configs : List ReverseProxyConfig) (task : Task) : Prop :=
  ∀ o, task.outcome = some o → o ≠ .waiting ∧
    ∃ (s : Stream IoError) (net : LocalNet), s.Extends task.stream ∧ o = handleTunnelStream configs net s

theorem Acted.grow {task : Task} (h : Acted configs task) {stream : Stream IoError}
    (hx : task.stream.Extends stream) : Acted configs { task with stream := stream } := by
  intro o ho
  obtain ⟨hw, s, net, hs, he⟩ := h o ho
  exact ⟨hw, s, net, hs.trans hx, he⟩

theorem Acted.step {task task' : Task} {e : Event} (h : Acted configs task)
    (hstep : task.step configs e = some task') : Acted configs task' := by
  cases e with
  | recv i chunk =>
    simp only [Task.step] at hstep
    split at hstep
    · rename_i ho
      cases hstep
      exact h.grow ⟨[chunk], rfl, fun e he => by rw [ho] at he; cases he⟩
    · cases hstep
  | close i e =>
    simp only [Task.step] at hstep
    split at hstep
    · rename_i ho
      cases hstep
      exact h.grow ⟨[], by simp, fun e he => by rw [ho] at he; cases he⟩
    · cases hstep
  | localSends i bytes =>
    cases hstep
    exact h
  | relayEnds i =>
    cases hstep
    exact h
  | poll i =>
    simp only [Task.step, Task.poll] at hstep
    split at hstep
    · rename_i hc
      cases hstep
      intro o ho
      obtain rfl := Option.some.inj ho
      exact ⟨hc.2, task.stream, task.net, .refl _, rfl⟩
    · cases hstep
  | inbound net | stop => cases hstep

def AllActed (configs : List ReverseProxyConfig) (s : State) : Prop :=
  ∀ task ∈ s.tasks, Acted configs task

theorem taskStep_acted {s s' : State} {i : ℕ} {e : Event} (hs : AllActed configs s)
    (h : taskStep configs s i e = some s') : AllActed configs s' := by
  obtain ⟨task, ht, h⟩ := Option.bind_eq_some_iff.mp h
  obtain ⟨task', hstep, rfl⟩ := Option.map_eq_some_iff.mp h
  intro b hb
  rcases List.mem_or_eq_of_mem_set hb with hb | rfl
  · exact hs b hb
  · exact (hs task (List.mem_of_getElem? ht)).step hstep

theorem AllActed.step {s s' : State} {e : Event} (hs : AllActed configs s)
    (h : step configs s e = some s') : AllActed configs s' := by
  cases e with
  | inbound net =>
    simp only [ClientTunnels.step] at h
    split at h
    · cases h
      intro task ht
      rcases List.mem_append.mp ht with ht | ht
      · exact hs task ht
      · obtain rfl := List.mem_singleton.mp ht
        intro o ho
        cases ho
    · cases h
  | stop =>
    simp only [ClientTunnels.step] at h
    split at h
    · cases h
      exact hs
    · cases h
  | recv i _ | close i _ | localSends i _ | relayEnds i | poll i => exact taskStep_acted hs h

theorem forwardTcp_traffic (net : LocalNet) (target : ReverseProxyConfig) (s : Stream IoError) :
    (forwardTcp net target s).traffic = [.connect (localAddr target)] := by
  unfold forwardTcp
  cases net.connectTcp <;> rfl

theorem forwardUdp_traffic (net : LocalNet) (target : ReverseProxyConfig) (payload : Bytes) :
    (forwardUdp net target payload).traffic = [] ∨
      (forwardUdp net target payload).traffic = [.sendTo (localAddr target) payload] := by
  unfold forwardUdp
  cases net.bindUdp with
  | some e => exact Or.inl rfl
  | none => cases net.sendUdp <;> exact Or.inr rfl

theorem handleTunnelStream_allowed (net : LocalNet) (s : Stream IoError) {t : LocalTraffic}
    (h : t ∈ (handleTunnelStream configs net s).traffic) (more : Bytes) : Allowed configs (s.bytes ++ more) t := by
  have hspec := handleTunnelStream_spec configs net s
  cases hp : parseOrder configs s.bytes with
  | none =>
    rw [hp] at hspec
    rcases hspec with ⟨he, -⟩ | ⟨e, he⟩ <;> simp [he, Outcome.waiting, Outcome.fail] at h
  | some order =>
    rw [hp] at hspec
    obtain ⟨msgType, reserved, hi, lo, rest, target, hb, hl, ⟨h1, rfl⟩ | ⟨h2, payload, -, rfl⟩⟩ :=
      parseOrder_header hp
    · obtain ⟨rest', -, he⟩ := hspec
      rw [he, forwardTcp_traffic, List.mem_singleton] at h
      exact ⟨msgType, reserved, hi, lo, rest ++ more, target, by rw [hb]; rfl, lookup_firstEntry hl,
        Or.inl ⟨h1, h⟩⟩
    · simp only at hspec
      rw [hspec] at h
      rcases forwardUdp_traffic net target payload with ht | ht
      · simp [ht] at h
      · rw [ht, List.mem_singleton] at h
        exact ⟨msgType, reserved, hi, lo, rest ++ more, target, by rw [hb]; rfl, lookup_firstEntry hl,
          Or.inr ⟨h2, payload, h⟩⟩

theorem extends_bytes {s s' : Stream IoError} (h : s.Extends s') : ∃ more, s'.bytes = s.bytes ++ more := by
  obtain ⟨more, hc, -⟩ := h
  exact ⟨more.flatten, by simp [Stream.bytes, hc]⟩

theorem handleTunnelStream_idle (net : LocalNet) (s : Stream IoError) (h : parseOrder configs s.bytes = none) :
    (handleTunnelStream configs net s = .waiting ∧ s.ending = none) ∨
      ∃ e, handleTunnelStream configs net s = .fail e := by
  have hspec := handleTunnelStream_spec configs net s
  rw [h] at hspec
  exact hspec

theorem Acted.allowed {task : Task} (h : Acted configs task) {o : Outcome} (ho : task.outcome = some o)
    {t : LocalTraffic} (ht : t ∈ o.traffic) : Allowed configs task.stream.bytes t := by
  obtain ⟨-, s, net, hx, rfl⟩ := h o ho
  obtain ⟨more, hb⟩ := extends_bytes hx
  rw [hb]
  exact handleTunnelStream_allowed net s ht more

theorem Acted.idle {task : Task} (h : Acted configs task) (hnone : parseOrder configs task.stream.bytes = none)
    {o : Outcome} (ho : task.outcome = some o) : o.traffic = [] ∧ ∃ e, o.result = some (.error e) := by
  obtain ⟨hw, s, net, hx, rfl⟩ := h o ho
  obtain ⟨more, hb⟩ := extends_bytes hx
  have hnone' : parseOrder configs s.bytes = none := by
    cases hp : parseOrder configs s.bytes with
    | none => rfl
    | some order =>
      rw [hb] at hnone
      exact absurd hnone (parseOrder_append hp more)
  rcases handleTunnelStream_idle net s hnone' with ⟨he, -⟩ | ⟨e, he⟩
  · exact absurd he hw
  · rw [he]
    exact ⟨rfl, e, rfl⟩

end GscFq.ClientTunnels
