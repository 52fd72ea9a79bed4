import GscFq.UdpPackets

namespace GscFq.UdpSessions

open ByteStream GscFq.Lists Stealth

variable {h : StealthConnectionHandler}

def Event.arrival : Event → Bool
  | .arrive _ _ => true
  | .relay _ (.recv _) => true
  | _ => false

def RelayStage.rank : RelayStage → ℕ
  | .receiving => 3
  | .replying _ => 4
  | .leaving => 2
  | .done => 0

/-- The relay that is still to be spawned counts too. -/
def Section.rank : Section → ℕ
  | .binding => 9
  | .connecting _ => 8
  | .spawning _ => 7
  | .inserting _ => 3
  | .sending _ => 2

/-- A relay that has got the lock is one step further than one that has not. -/
def rankHolder : Option Holder → ℕ
  | none => 1
  | some (.packet _ place) => place.rank
  | some (.relay _) => 0

/-- What is left to do of the packets that have come in and of the sessions there are. -/
def State.toGo (s : State) : ℕ := 9 * s.waiting.length + rankHolder s.holder + (s.relays.map (·.stage.rank)).sum

theorem relayBody_rank_lt {rel rel' : Relay} {r : RelayId} {e : RelayEvent} (he : Event.arrival (.relay r e) = false)
    (body : relayBody rel e = some rel') : rel'.stage.rank < rel.stage.rank := by
  cases e with
  | recv d => cases he
  | sendTo failed =>
    simp only [relayBody] at body
    split at body <;> cases body <;> simp [RelayStage.rank, *]
  | recvError | timeout =>
    simp only [relayBody] at body
    split at body <;> cases body
    simp [RelayStage.rank, *]
  | lock | remove => cases body

theorem Section.two_le_rank (place : Section) : 2 ≤ place.rank := by
  cases place <;> simp [Section.rank]

theorem toGo_lt {s t : State} {e : Event} (htable : Table s) (he : e.arrival = false) (ht : Turn s e t) :
    t.toGo < s.toGo := by
  cases ht with
  | refused | accepted => cases he
  | @taken i pkt waits free =>
    obtain ⟨hi, -⟩ := List.getElem?_eq_some_iff.mp waits
    have hplace : rankHolder (some (.packet pkt ((s.sessions.lookup pkt.client).elim .binding Section.sending))) ≤ 9 := by
      cases s.sessions.lookup pkt.client <;> simp [rankHolder, Section.rank]
    simp only [State.toGo, free, rankHolder, List.length_eraseIdx_of_lt hi] at hplace ⊢
    omega
  | @failed pkt place e held err =>
    have hrank := place.two_le_rank
    simp only [State.toGo, State.finish, held, rankHolder]
    omega
  | bound held | connected held | inserted held | sent held =>
    simp [State.toGo, State.finish, held, rankHolder, Section.rank]
  | spawned held =>
    simp [State.toGo, held, rankHolder, Section.rank, RelayStage.rank]
    omega
  | locked found free leaving => simp [State.toGo, free, rankHolder]
  | @removed r rel found held =>
    have hsum := sum_set_get (·.stage.rank) { rel with stage := .done } found
    have hold : rel.stage.rank = 2 := by
      rw [htable.held held found]
      rfl
    have hnew : RelayStage.done.rank = 0 := rfl
    simp only [hold, hnew] at hsum
    simp only [State.toGo, held, rankHolder]
    omega
  | @relayed r rel rel' e found body =>
    have hlt := relayBody_rank_lt he body
    have hsum := sum_set_get (·.stage.rank) rel' found
    simp only [State.toGo]
    omega

structure Idle (s : State) : Prop where
  waiting : s.waiting = []
  free : s.holder = none
  done : ∀ rel ∈ s.relays, rel.stage = .done
  sessions : ∀ c, s.sessions.lookup c = none

/-- The one that has the lock can go on. -/
theorem held_enabled {s : State} (htable : Table s) {holder : Holder} (held : s.holder = some holder) :
    ∃ e, e.arrival = false ∧ (step h s e).isSome = true := by
  cases holder with
  | packet pkt place =>
    cases place with
    | binding => exact ⟨.packet (.bind none), rfl, by simp [step, held, handleUdpPacket]⟩
    | connecting => exact ⟨.packet (.connect none), rfl, by simp [step, held, handleUdpPacket]⟩
    | spawning => exact ⟨.packet .spawn, rfl, by simp [step, held, handleUdpPacket]⟩
    | inserting => exact ⟨.packet .insert, rfl, by simp [step, held, handleUdpPacket]⟩
    | sending => exact ⟨.packet (.send none), rfl, by simp [step, held, handleUdpPacket]⟩
  | relay r =>
    obtain ⟨rel, hr, -⟩ := htable.leaving r held
    exact ⟨.relay r .remove, rfl, by simp [step, hr, removeSession, held]⟩

theorem relay_enabled {s : State} (free : s.holder = none) {rel : Relay} (hm : rel ∈ s.relays) (hlive : rel.stage ≠ .done) :
    ∃ e, e.arrival = false ∧ (step h s e).isSome = true := by
  obtain ⟨r, hr⟩ := List.getElem?_of_mem hm
  cases hst : rel.stage with
  | receiving => exact ⟨.relay r .timeout, rfl, by simp [step, hr, relayBody, hst]⟩
  | replying d => exact ⟨.relay r (.sendTo none), rfl, by simp [step, hr, relayBody, hst]⟩
  | leaving => exact ⟨.relay r .lock, rfl, by simp [step, hr, lockRelay, free, hst]⟩
  | done => exact absurd hst hlive

theorem stuck_idle {s : State} (htable : Table s) (hstuck : ∀ e, e.arrival = false → step h s e = none) : Idle s := by
  have hno : ¬ ∃ e, e.arrival = false ∧ (step h s e).isSome = true := by
    rintro ⟨e, he, ht⟩
    rw [hstuck e he] at ht
    cases ht
  have free : s.holder = none := by
    cases held : s.holder with
    | none => rfl
    | some holder => exact absurd (held_enabled htable held) hno
  have hdone : ∀ rel ∈ s.relays, rel.stage = .done := by
    intro rel hm
    by_contra hlive
    exact hno (relay_enabled free hm hlive)
  refine ⟨?_, free, hdone, ?_⟩
  · cases hw : s.waiting with
    | nil => rfl
    | cons pkt rest => exact absurd ⟨.lock 0, rfl, by simp [step, hw, free]⟩ hno
  · intro c
    by_contra hne
    obtain ⟨k, hk⟩ := Option.ne_none_iff_exists'.mp hne
    obtain ⟨rel, hm, -, -, hlive⟩ := (htable.served c k).mpr (Or.inl hk)
    exact hlive (hdone rel hm)

theorem Accounts.returned {es : List Event} {s : State} {failed : List Packet} (hs : Accounts es s failed) (hi : Idle s) :
    s.results.length = (accepted es).length + refusals es := by
  have hlen := hs.packets.length_eq
  have hresults := hs.results
  simp only [hi.waiting, handled_free hi.free, List.nil_append, List.length_append, List.length_map] at hlen
  omega

/-- When no packet or reply comes in any more, the tasks have a bounded number of steps left, whatever their order and
whatever fails, and only where nobody waits for the table or holds it, each call has returned, and no session is left
does none remain. -/
theorem udp_sessions_drain {es fs : List Event} {s t : State} (hrun : run h es = some s)
    (hf : Transitions.run (step h) s fs = some t) :
    ((∀ e ∈ fs, e.arrival = false) → fs.length ≤ s.toGo) ∧
      ((∀ e, e.arrival = false → step h t e = none) →
        Idle t ∧ t.results.length = (accepted (es ++ fs)).length + refusals (es ++ fs)) := by
  have hall : run h (es ++ fs) = some t := by
    rw [run, Transitions.run_append, Option.bind_eq_some_iff]
    exact ⟨s, hrun, hf⟩
  refine ⟨fun hquiet => ?_, fun hstuck => ?_⟩
  · have hm := Transitions.run_measure (I := Table) State.toGo hf hquiet (run_table hrun) ?_
    · omega
    · intro u e v he hu hstep
      exact ⟨hu.step hstep, toGo_lt hu he (step_turn hstep)⟩
  · have hidle := stuck_idle (run_table hall) hstuck
    obtain ⟨failed, hs⟩ := run_accounts hall
    exact ⟨hidle, hs.returned hidle⟩

def sampleEnd : List Event := [.relay 1 .timeout, .relay 1 .lock, .relay 1 .remove]

theorem sample_sessions_drain : ∃ s t, run sampleHandler sampleSessions = some s ∧
    Transitions.run (step sampleHandler) s sampleEnd = some t ∧ sampleEnd.length ≤ s.toGo ∧ s.toGo = 4 := by
  have hrun : (run sampleHandler sampleSessions).map (fun s =>
      ((Transitions.run (step sampleHandler) s sampleEnd).isSome, s.toGo)) = some (true, 4) := by decide +kernel
  obtain ⟨s, hs, hend⟩ := Option.map_eq_some_iff.mp hrun
  obtain ⟨hsome, hleft⟩ := Prod.mk.inj hend
  obtain ⟨t, ht⟩ := Option.isSome_iff_exists.mp hsome
  exact ⟨s, t, hs, ht, (udp_sessions_drain hs ht).1 (by decide), hleft⟩

end GscFq.UdpSessions
