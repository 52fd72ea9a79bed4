import GscFq.ClientLoop

namespace GscFq.ClientLoop

open Broadcast ReverseProxyClient

variable {client : ReverseProxyClient} {earlier : ℕ}

def Usable (client : ReverseProxyClient) : Prop := ∃ c cs, parseProxyConfigs client.config = .ok (c :: cs)

def AboutToConnect (client : ReverseProxyClient) (s : State) : Prop :=
  Usable client ∧ ((s.stage = .resubscribing ∧ s.retryCount < maxRetries) ∨ ∃ rx, s.stage = .ready rx)

def Stage.rx : Stage → Option Receiver
  | .ready rx | .connecting rx | .handshaking rx | .tunnel rx | .backoff rx => some rx
  | _ => none

theorem connect_usable (hu : Usable client) (s : State) (rx : Receiver) :
    s.connect client rx = { s.goto (.connecting rx) with begun := s.begun + 1 } := by
  obtain ⟨c, cs, hp⟩ := hu
  simp [State.connect, hp]

theorem connect_unusable (hu : ¬ Usable client) (s : State) (rx : Receiver) :
    ∃ e, s.connect client rx = s.goto (.ended .failed e) := by
  unfold State.connect
  split
  · exact ⟨_, rfl⟩
  · exact ⟨_, rfl⟩
  · rename_i c cs hp
    exact absurd ⟨c, cs, hp⟩ hu

theorem connect_cases (s : State) (rx : Receiver) :
    (s.connect client rx).channel = s.channel ∧ (s.connect client rx).shutdownRx = s.shutdownRx ∧
      ∀ rx', (s.connect client rx).stage.rx = some rx' → rx' = rx := by
  by_cases hu : Usable client
  · rw [connect_usable hu]
    simp [State.goto, Stage.rx]
  · obtain ⟨e, he⟩ := connect_unusable hu s rx
    rw [he]
    simp [State.goto, Stage.rx]

theorem retry_cases (s : State) (outcome : Outcome) :
    (s.retry outcome).channel = s.channel ∧ (s.retry outcome).shutdownRx = s.shutdownRx ∧
      (s.retry outcome).begun = s.begun ∧
      ((s.retry outcome).stage = .checking ∨ (s.retry outcome).stage = .backoff s.channel.subscribe) := by
  unfold State.retry
  simp only
  split <;> simp [State.goto]

structure Quiet (s : State) : Prop where
  capacity : s.channel.capacity = 1
  main : s.shutdownRx.next = s.channel.tail
  held : ∀ rx, s.stage.rx = some rx → rx.next = s.channel.tail

theorem Quiet.move {s s' : State} (hs : Quiet s) (hm : Move client s s') : Quiet s' := by
  cases hm with
  | observed before signal =>
    rw [tryRecv_empty hs.main] at signal
    cases signal
  | unobserved before signal none =>
    rw [tryRecv_empty hs.main] at signal
    cases signal
    exact ⟨hs.capacity, hs.main, by simp [Stage.rx]⟩
  | exhausted | fail | lose | stop | slept => exact ⟨hs.capacity, hs.main, by simp [State.goto, Stage.rx]⟩
  | resubscribe => exact ⟨hs.capacity, hs.main, by simp [State.goto, Stage.rx, Channel.subscribe]⟩
  | connected before | accepted before =>
    refine ⟨hs.capacity, hs.main, fun rx' hrx => hs.held rx' ?_⟩
    rw [before]
    exact hrx
  | inbound => exact hs
  | @connect rx before =>
    obtain ⟨hch, hmain, hrx⟩ := @connect_cases client s rx
    refine ⟨by rw [hch]; exact hs.capacity, by rw [hch, hmain]; exact hs.main, ?_⟩
    intro rx' hrx'
    rw [hch, hrx rx' hrx']
    exact hs.held rx (by rw [before]; rfl)
  | @retry outcome e before =>
    obtain ⟨hch, hmain, -, hstage⟩ := retry_cases s outcome
    refine ⟨by rw [hch]; exact hs.capacity, by rw [hch, hmain]; exact hs.main, ?_⟩
    intro rx' hrx'
    rcases hstage with hst | hst
    · rw [hst] at hrx'
      cases hrx'
    · rw [hst] at hrx'
      cases hrx'
      rw [hch]
      rfl

theorem run_quiet {es : List Event} {s : State} (h : run client earlier es = some s) (hone : .shutdown ∉ es) :
    Quiet s := by
  apply Transitions.run_invariant_of (H := fun e => e ≠ .shutdown) h
  · rintro e hm rfl
    exact hone hm
  · exact ⟨rfl, rfl, by simp [start, Stage.rx]⟩
  · intro u e v hne hu he
    exact hu.move (step_move he hne)

/-- The one signal is out: the receiver of the loop has it waiting until the loop returns, and so
has every receiver that a connection attempt holds. -/
structure Warned (client : ReverseProxyClient) (begun : ℕ) (s : State) : Prop where
  capacity : s.channel.capacity = 1
  main : (∃ r, s.stage = .returned r) ∨ s.shutdownRx.next + 1 = s.channel.tail
  begun : s.begun = begun
  calm : ¬ AboutToConnect client s
  held : ∀ rx, s.stage = .connecting rx ∨ s.stage = .handshaking rx ∨ s.stage = .tunnel rx →
    rx.next < s.channel.tail

theorem Quiet.warned {s : State} (hs : Quiet s) (hc : ¬ AboutToConnect client s) :
    Warned client s.begun { s with channel := s.channel.send } := by
  refine ⟨hs.capacity, Or.inr ?_, rfl, hc, ?_⟩
  · simp [Channel.send, hs.main]
  · intro rx hrx
    have hheld : rx.next = s.channel.tail := by
      apply hs.held
      rcases hrx with h | h | h <;> simp only at h <;> rw [h] <;> rfl
    simp [Channel.send, hheld]

theorem not_aboutToConnect {s : State} (h : s.stage ≠ .resubscribing) (h' : ∀ rx, s.stage ≠ .ready rx) :
    ¬ AboutToConnect client s := by
  rintro ⟨-, ⟨hs, -⟩ | ⟨rx, hs⟩⟩
  · exact h hs
  · exact h' rx hs

theorem Warned.main_of {begun : ℕ} {s : State} (hs : Warned client begun s) (h : ∀ r, s.stage ≠ .returned r) :
    s.shutdownRx.next + 1 = s.channel.tail :=
  hs.main.resolve_left (fun hr => hr.elim h)

theorem Warned.move {begun : ℕ} {s s' : State} (hs : Warned client begun s) (hm : Move client s s') :
    Warned client begun s' := by
  cases hm with
  | observed before signal =>
    exact ⟨hs.capacity, Or.inl ⟨_, rfl⟩, hs.begun, not_aboutToConnect (by simp) (by simp), by simp⟩
  | unobserved before signal none =>
    -- the receiver of the loop has the message, so `try_recv` cannot come back empty
    have hmain := hs.main_of (by simp [before])
    rw [tryRecv_one (by rw [hs.capacity]; exact Nat.one_pos) hmain] at signal
    cases signal
    exact absurd rfl none
  | exhausted | stop =>
    exact ⟨hs.capacity, Or.inl ⟨_, rfl⟩, hs.begun, not_aboutToConnect (by simp [State.goto]) (by simp [State.goto]),
      by simp [State.goto]⟩
  | resubscribe before budget =>
    have hmain := hs.main_of (by simp [before])
    have hunusable : ¬ Usable client := fun hu => hs.calm ⟨hu, Or.inl ⟨before, budget⟩⟩
    exact ⟨hs.capacity, Or.inr hmain, hs.begun, fun h => hunusable h.1, by simp [State.goto]⟩
  | @connect rx before =>
    have hmain := hs.main_of (by simp [before])
    have hunusable : ¬ Usable client := fun hu => hs.calm ⟨hu, Or.inr ⟨rx, before⟩⟩
    obtain ⟨e, he⟩ := connect_unusable hunusable s rx
    rw [he]
    exact ⟨hs.capacity, Or.inr hmain, hs.begun, fun h => hunusable h.1, by simp [State.goto]⟩
  | @connected rx before =>
    refine ⟨hs.capacity, Or.inr (hs.main_of (by simp [before])), hs.begun,
      not_aboutToConnect (by simp [State.goto]) (by simp [State.goto]), ?_⟩
    intro rx' hrx
    obtain rfl : rx = rx' := by simpa [State.goto] using hrx
    exact hs.held rx (Or.inl before)
  | @accepted rx before =>
    refine ⟨hs.capacity, Or.inr (hs.main_of (by simp [before])), hs.begun,
      not_aboutToConnect (by simp [State.goto]) (by simp [State.goto]), ?_⟩
    intro rx' hrx
    obtain rfl : rx = rx' := by simpa [State.goto] using hrx
    exact hs.held rx (Or.inr (Or.inl before))
  | inbound => exact hs
  | @fail rx e before =>
    have hmain := hs.main_of (by rcases before with h | h <;> simp [h])
    exact ⟨hs.capacity, Or.inr hmain, hs.begun, not_aboutToConnect (by simp [State.goto]) (by simp [State.goto]),
      by simp [State.goto]⟩
  | lose before =>
    exact ⟨hs.capacity, Or.inr (hs.main_of (by simp [before])), hs.begun,
      not_aboutToConnect (by simp [State.goto]) (by simp [State.goto]), by simp [State.goto]⟩
  | slept before =>
    exact ⟨hs.capacity, Or.inr (hs.main_of (by simp [before])), hs.begun,
      not_aboutToConnect (by simp) (by simp), by simp⟩
  | @retry outcome e before =>
    have hmain := hs.main_of (by simp [before])
    obtain ⟨hch, hrx, hbegun, hstage⟩ := retry_cases s outcome
    refine ⟨by rw [hch]; exact hs.capacity, Or.inr (by rw [hrx, hch]; exact hmain), hbegun.trans hs.begun,
      not_aboutToConnect ?_ ?_, ?_⟩
    · rcases hstage with h | h <;> simp [h]
    · rcases hstage with h | h <;> simp [h]
    · rcases hstage with h | h <;> simp [h]

/-- The one signal, sent in state `u`, is not missed: whatever the client does after it, it begins
no connection attempt, and in a tunnel loop the `select` finds the signal and the client returns. -/
def SignalSeen (client : ReverseProxyClient) (u : State) : Prop :=
  ∀ after s, .shutdown ∉ after → Transitions.run (step client) u (.shutdown :: after) = some s →
    s.begun = u.begun ∧
      ∀ rx, s.stage = .tunnel rx → step client s .stop = some (s.goto (.returned (.ok ())))

theorem Warned.seen {begun : ℕ} {s : State} (hs : Warned client begun s) {rx : Receiver} (h : s.stage = .tunnel rx) :
    step client s .stop = some (s.goto (.returned (.ok ()))) := by
  have hlt := hs.held rx (Or.inr (Or.inr h))
  simp [step, h, Channel.pending, hlt]

theorem aboutToConnect_begins {u : State} (h : AboutToConnect client u) : ∃ after s, .shutdown ∉ after ∧
    Transitions.run (step client) u (.shutdown :: after) = some s ∧ s.begun = u.begun + 1 := by
  let v : State := { u with channel := u.channel.send }
  obtain ⟨hu, ⟨hstage, hbudget⟩ | ⟨rx, hstage⟩⟩ := h
  · have hrun : Transitions.run (step client) u [.shutdown, .resubscribe, .connect] =
        some ((v.goto (.ready v.channel.subscribe)).connect client v.channel.subscribe) := by
      simp [Transitions.run, step, hstage, Nat.not_le.mpr hbudget, State.goto, v]
    exact ⟨_, _, by simp, hrun, by rw [connect_usable hu]; rfl⟩
  · have hrun : Transitions.run (step client) u [.shutdown, .connect] = some (v.connect client rx) := by
      simp [Transitions.run, step, hstage, v]
    exact ⟨_, _, by simp, hrun, by rw [connect_usable hu]⟩

theorem signal_seen_iff {before : List Event} {u : State} (h : run client earlier before = some u)
    (hone : .shutdown ∉ before) : SignalSeen client u ↔ ¬ AboutToConnect client u := by
  constructor
  · intro hseen habout
    obtain ⟨after, s, hno, hrun, hbegun⟩ := aboutToConnect_begins habout
    have hsame := (hseen after s hno hrun).1
    omega
  · intro hcalm after s hno hrun
    have hafter : Transitions.run (step client) { u with channel := u.channel.send } after = some s := hrun
    have hwarned : Warned client u.begun s := by
      apply Transitions.run_invariant_of (H := fun e => e ≠ .shutdown) hafter
      · rintro e hm rfl
        exact hno hm
      · exact (run_quiet h hone).warned hcalm
      · intro v e w hne hv he
        exact hv.move (step_move he hne)
    exact ⟨hwarned.begun, fun rx hrx => hwarned.seen hrx⟩

def servedRun : List Event := [.check, .resubscribe, .connect, .connected (.ok ()), .handshake (.ok ())]

theorem served_signal_seen :
    ∃ u rx, run (exposingClient "8080") 0 servedRun = some u ∧ u.stage = .tunnel rx ∧
      SignalSeen (exposingClient "8080") u := by
  have hrun : (run (exposingClient "8080") 0 servedRun).map (·.stage) = some (.tunnel ⟨0⟩) := rfl
  obtain ⟨u, hu, hstage⟩ := Option.map_eq_some_iff.mp hrun
  refine ⟨u, ⟨0⟩, hu, hstage, (signal_seen_iff hu (by decide)).mpr ?_⟩
  exact not_aboutToConnect (by simp [hstage]) (by simp [hstage])

theorem signal_missed :
    ∃ u s rx, run (exposingClient "8080") 0 [.check] = some u ∧
      Transitions.run (step (exposingClient "8080")) u
        [.shutdown, .resubscribe, .connect, .connected (.ok ()), .handshake (.ok ())] = some s ∧
      s.begun = u.begun + 1 ∧ s.stage = .tunnel rx ∧ step (exposingClient "8080") s .stop = none ∧
      ¬ SignalSeen (exposingClient "8080") u := by
  refine ⟨_, _, _, rfl, rfl, rfl, rfl, rfl, ?_⟩
  intro hseen
  have hsame := (hseen [.resubscribe, .connect] _ (by decide) rfl).1
  exact absurd hsame (by decide)

end GscFq.ClientLoop
