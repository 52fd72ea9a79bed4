import GscFq.ZeroCopy

/-!
The whole of `zero_copy_bidirectional` on Linux: its setup, the two directions as blocking tasks and the join. A
direction once spawned goes on whether or not the function that spawned it has returned, and keeps the two halves
of the sockets it uses; the other two halves go with the function.
-/

namespace GscFq.ZeroCopySession

open ByteStream Splice

inductive Phase where
  | clientNodelay
  | serverNodelay
  | firstPipe
  | secondPipe
  | joining
  | returned (result : Except AppError (ℕ × ℕ))
  deriving DecidableEq

/-- `serverShut` and `clientShut` say that the half a peer is written to has been dropped. -/
structure State where
  phase : Phase
  c2s : Splice.State
  s2c : Splice.State
  serverShut : Bool
  clientShut : Bool

inductive Event where
  | nodelay (failed : Option IoError)
  | c2s (e : Splice.Event)
  | s2c (e : Splice.Event)
  | join
  deriving DecidableEq, Repr

def init (clientBytes serverBytes : Bytes) : State := ⟨.clientNodelay, .init clientBytes, .init serverBytes, false, false⟩

def finished (s : Splice.State) : Bool :=
  match s.stage with
  | .returned _ => true
  | _ => false

def running (s : Splice.State) : Bool :=
  match s.stage with
  | .filling | .draining _ => true
  | _ => false

/-- Both sockets go with the function. -/
def State.abandon (s : State) (e : IoError) : State :=
  { s with phase := .returned (.error (.io e)), serverShut := true, clientShut := true }

def State.nodelay (s : State) (failed : Option IoError) : Option State :=
  match s.phase, failed with
  | .clientNodelay, none => some { s with phase := .serverNodelay }
  | .serverNodelay, none => some { s with phase := .firstPipe }
  | .clientNodelay, some e | .serverNodelay, some e => some (s.abandon e)
  | _, _ => none

def State.firstPipe (s : State) (failed : Option IoError) : Option State :=
  if s.phase = .firstPipe then
    (Splice.step zeroCopyC2s s.c2s (.pipe failed)).map (fun c2s =>
      match failed with
      | none => { s with phase := .secondPipe, c2s := c2s }
      | some e => { s.abandon e with c2s := c2s })
  else none

/-- The direction to the server is under way already. -/
def State.secondPipe (s : State) (failed : Option IoError) : Option State :=
  if s.phase = .secondPipe then
    (Splice.step zeroCopyS2c s.s2c (.pipe failed)).map (fun s2c =>
      match failed with
      | none => { s with phase := .joining, s2c := s2c }
      | some e => { s with phase := .returned (.error (.io e)), s2c := s2c, clientShut := true })
  else none

/-- The two results in order; an error of the first comes first. -/
def joined : Stage → Stage → Option (Except AppError (ℕ × ℕ))
  | .returned (.ok b₁), .returned (.ok b₂) => some (.ok (b₁, b₂))
  | .returned (.error e), .returned _ => some (.error e)
  | .returned (.ok _), .returned (.error e) => some (.error e)
  | _, _ => none

def State.join (s : State) : Option State :=
  if s.phase = .joining then
    (joined s.c2s.stage s.s2c.stage).map (fun result => { s with phase := .returned result })
  else none

def step (s : State) : Event → Option State
  | .nodelay failed => s.nodelay failed
  | .c2s (.pipe failed) => s.firstPipe failed
  | .c2s e =>
    (Splice.step zeroCopyC2s s.c2s e).map (fun c2s => { s with c2s := c2s, serverShut := s.serverShut || finished c2s })
  | .s2c (.pipe failed) => s.secondPipe failed
  | .s2c e =>
    (Splice.step zeroCopyS2c s.s2c e).map (fun s2c => { s with s2c := s2c, clientShut := s.clientShut || finished s2c })
  | .join => s.join

/-- One direction of the two: its pipe is closed once and only when it is over, and once it has begun it
ends with a count. -/
structure Direction (source : Bytes) (s : Splice.State) : Prop where
  sound : Splice.Sound source s
  bounded : Bounded s
  waiting : s.stage = .opening → s.delivered = [] ∧ s.closedRead = 0 ∧ s.closedWrite = 0
  live : running s = true → s.closedRead = 0 ∧ s.closedWrite = 0
  counted : ∀ total, s.stage = .returned (.ok total) → s.closedRead = 1 ∧ s.closedWrite = 1
  refused : ∀ e, s.stage = .returned (.error e) → s.delivered = [] ∧ s.closedRead = 0 ∧ s.closedWrite = 0

theorem init_direction (source : Bytes) : Direction source (.init source) :=
  ⟨⟨rfl, rfl, rfl⟩, ⟨Nat.zero_le _, nofun, nofun, nofun⟩, fun _ => ⟨rfl, rfl, rfl⟩, nofun, nofun, nofun⟩

/-- A direction whose loop goes on. -/
theorem Direction.goesOn {source : Bytes} {s : Splice.State} (hsound : Splice.Sound source s) (hbounded : Bounded s)
    (hr : running s = true) (hlive : s.closedRead = 0 ∧ s.closedWrite = 0) : Direction source s := by
  have hopening : s.stage ≠ .opening := by
    intro ho
    simp [running, ho] at hr
  have hreturned (result : Except AppError ℕ) : s.stage ≠ .returned result := by
    intro ho
    simp [running, ho] at hr
  exact ⟨hsound, hbounded, fun ho => absurd ho hopening, fun _ => hlive, fun _ ho => absurd ho (hreturned _),
    fun _ ho => absurd ho (hreturned _)⟩

theorem Direction.move {l : Loop} (hfill : l.onFillError = zeroCopyError) (hdrain : l.onDrainError = zeroCopyError)
    {source : Bytes} {s t : Splice.State} {e : Splice.Event} (h : Direction source s) (hm : Splice.Move l s e t) :
    Direction source t := by
  have hsound := h.sound.move hm
  have hbounded := h.bounded.move hm
  cases hm with
  | opened hs => exact .goesOn hsound hbounded rfl (h.waiting hs).2
  | refused hs err => exact ⟨hsound, hbounded, by simp, by simp [running], by simp, fun _ _ => h.waiting hs⟩
  | taken hs hpos hchunk hrest => exact .goesOn hsound hbounded rfl (h.live (by rw [running, hs]))
  | ended hs | fillLeft hs _ =>
    have hlive := h.live (by rw [running, hs])
    refine ⟨hsound, hbounded, by simp [State.finish], by simp [State.finish, running], fun _ _ => ?_, by simp [State.finish]⟩
    simp only [State.finish, hlive, and_self]
  | fillAgain | drainAgain => exact h
  | fillFailed _ hr =>
    rw [hfill] at hr
    exact absurd hr (zeroCopyError_not_fail _ _)
  | @given remaining n hs hpos hrem hpipe =>
    have hrunning : running (s.give remaining n) = true := by
      simp only [State.give]
      split <;> rfl
    exact .goesOn hsound hbounded hrunning (h.live (by rw [running, hs]))
  | drainEmpty hs | drainLeft hs _ => exact .goesOn hsound hbounded rfl (h.live (by rw [running, hs]))
  | drainFailed _ hr =>
    rw [hdrain] at hr
    exact absurd hr (zeroCopyError_not_fail _ _)

/-- The loop has begun and has not been refused its pipe. -/
def Begun (s : Splice.State) : Prop := running s = true ∨ ∃ total, s.stage = .returned (.ok total)

theorem Begun.finished {s : Splice.State} (h : Begun s) : finished s = !running s := by
  unfold ZeroCopySession.finished running
  rcases h with hr | ⟨total, ht⟩
  · unfold running at hr
    split at hr
    · rename_i hs
      rw [hs]
      rfl
    · rename_i remaining hs
      rw [hs]
      rfl
    · cases hr
  · rw [ht]
    rfl

theorem Begun.returned {s : Splice.State} (h : Begun s) {result : Except AppError ℕ} (hs : s.stage = .returned result) :
    ∃ total, result = .ok total := by
  rcases h with hr | ⟨total, ht⟩
  · rw [running, hs] at hr
    cases hr
  · exact ⟨total, Stage.returned.inj (hs.symm.trans ht)⟩

/-- A splice is made by a loop that runs, and leaves it running or over with a count. -/
theorem splice_begun {l : Loop} (hfill : l.onFillError = zeroCopyError) (hdrain : l.onDrainError = zeroCopyError)
    {s t : Splice.State} {e : Splice.Event} (he : ∀ failed, e ≠ .pipe failed) (hm : Splice.Move l s e t) :
    running s = true ∧ Begun t := by
  cases hm with
  | opened | refused => exact absurd rfl (he _)
  | taken hs => exact ⟨by rw [running, hs], .inl rfl⟩
  | ended hs => exact ⟨by rw [running, hs], .inr ⟨_, rfl⟩⟩
  | fillLeft hs _ => exact ⟨by rw [running, hs], .inr ⟨_, rfl⟩⟩
  | fillAgain hs _ | drainAgain hs _ =>
    have hr : running s = true := by rw [running, hs]
    exact ⟨hr, .inl hr⟩
  | fillFailed _ hr =>
    rw [hfill] at hr
    exact absurd hr (zeroCopyError_not_fail _ _)
  | given hs =>
    refine ⟨by rw [running, hs], .inl ?_⟩
    simp only [running, State.give]
    split <;> rename_i hst
    · rfl
    · rfl
    · split at hst <;> simp_all
  | drainEmpty hs | drainLeft hs _ => exact ⟨by rw [running, hs], .inl rfl⟩
  | drainFailed _ hr =>
    rw [hdrain] at hr
    exact absurd hr (zeroCopyError_not_fail _ _)

def PhaseSound (s : State) : Prop :=
  match s.phase with
  | .clientNodelay | .serverNodelay | .firstPipe =>
    (s.c2s.stage = .opening ∧ s.s2c.stage = .opening) ∧ s.serverShut = false ∧ s.clientShut = false
  | .secondPipe => (Begun s.c2s ∧ s.s2c.stage = .opening) ∧ s.serverShut = finished s.c2s ∧ s.clientShut = false
  | .joining => (Begun s.c2s ∧ Begun s.s2c) ∧ s.serverShut = finished s.c2s ∧ s.clientShut = finished s.s2c
  | .returned (.ok (b₁, b₂)) => (s.c2s.stage = .returned (.ok b₁) ∧ s.s2c.stage = .returned (.ok b₂)) ∧
      s.serverShut = true ∧ s.clientShut = true
  | .returned (.error _) => (s.s2c.delivered = [] ∧ running s.s2c = false) ∧
      s.serverShut = !running s.c2s ∧ s.clientShut = true

structure Sound (clientBytes serverBytes : Bytes) (s : State) : Prop where
  c2s : Direction clientBytes s.c2s
  s2c : Direction serverBytes s.s2c
  phase : PhaseSound s

variable {clientBytes serverBytes : Bytes} {s t : State}

theorem init_sound (clientBytes serverBytes : Bytes) : Sound clientBytes serverBytes (init clientBytes serverBytes) :=
  ⟨init_direction clientBytes, init_direction serverBytes, ⟨rfl, rfl⟩, rfl, rfl⟩

theorem running_opening {d : Splice.State} (h : d.stage = .opening) : running d = false := by rw [running, h]

theorem nodelay_sound (h : Sound clientBytes serverBytes s) {failed : Option IoError} (ht : s.nodelay failed = some t) :
    Sound clientBytes serverBytes t := by
  have hphase := h.phase
  unfold State.nodelay at ht
  unfold PhaseSound at hphase
  split at ht
  · rename_i hp
    rw [hp] at hphase
    cases ht
    exact ⟨h.c2s, h.s2c, hphase⟩
  · rename_i hp
    rw [hp] at hphase
    cases ht
    exact ⟨h.c2s, h.s2c, hphase⟩
  · rename_i e hp
    rw [hp] at hphase
    cases ht
    obtain ⟨⟨hc, hs⟩, -⟩ := hphase
    refine ⟨h.c2s, h.s2c, ⟨(h.s2c.waiting hs).1, running_opening hs⟩, ?_, rfl⟩
    dsimp only [State.abandon]
    rw [running_opening hc]
    rfl
  · rename_i e hp
    rw [hp] at hphase
    cases ht
    obtain ⟨⟨hc, hs⟩, -⟩ := hphase
    refine ⟨h.c2s, h.s2c, ⟨(h.s2c.waiting hs).1, running_opening hs⟩, ?_, rfl⟩
    dsimp only [State.abandon]
    rw [running_opening hc]
    rfl
  · cases ht

theorem firstPipe_sound (h : Sound clientBytes serverBytes s) {failed : Option IoError} (ht : s.firstPipe failed = some t) :
    Sound clientBytes serverBytes t := by
  obtain ⟨hp, he⟩ := Option.ite_none_right_eq_some.mp ht
  obtain ⟨c2s, hstep, rfl⟩ := Option.map_eq_some_iff.mp he
  have hmove := step_move hstep
  have hc2s := h.c2s.move rfl rfl hmove
  have hphase := h.phase
  rw [PhaseSound, hp] at hphase
  obtain ⟨⟨-, hs⟩, hserver, hclient⟩ := hphase
  cases failed with
  | none =>
    refine ⟨hc2s, h.s2c, ⟨?_, hs⟩, ?_, hclient⟩
    · cases hmove
      exact .inl rfl
    · cases hmove
      exact hserver
  | some e =>
    refine ⟨hc2s, h.s2c, ⟨(h.s2c.waiting hs).1, running_opening hs⟩, ?_, rfl⟩
    cases hmove
    rfl

theorem secondPipe_sound (h : Sound clientBytes serverBytes s) {failed : Option IoError}
    (ht : s.secondPipe failed = some t) : Sound clientBytes serverBytes t := by
  obtain ⟨hp, he⟩ := Option.ite_none_right_eq_some.mp ht
  obtain ⟨s2c, hstep, rfl⟩ := Option.map_eq_some_iff.mp he
  have hmove := step_move hstep
  have hs2c := h.s2c.move rfl rfl hmove
  have hphase := h.phase
  rw [PhaseSound, hp] at hphase
  obtain ⟨⟨hc, hs⟩, hserver, hclient⟩ := hphase
  cases failed with
  | none =>
    refine ⟨h.c2s, hs2c, ⟨hc, ?_⟩, hserver, ?_⟩
    · cases hmove
      exact .inl rfl
    · cases hmove
      exact hclient
  | some e =>
    refine ⟨h.c2s, hs2c, ⟨?_, ?_⟩, hserver.trans hc.finished, rfl⟩
    · cases hmove
      exact (h.s2c.waiting hs).1
    · cases hmove
      rfl

theorem join_sound (h : Sound clientBytes serverBytes s) (ht : s.join = some t) : Sound clientBytes serverBytes t := by
  obtain ⟨hp, he⟩ := Option.ite_none_right_eq_some.mp ht
  obtain ⟨result, hjoined, rfl⟩ := Option.map_eq_some_iff.mp he
  have hphase := h.phase
  rw [PhaseSound, hp] at hphase
  obtain ⟨⟨hc, hs⟩, hserver, hclient⟩ := hphase
  refine ⟨h.c2s, h.s2c, ?_⟩
  unfold joined at hjoined
  split at hjoined
  · rename_i b₁ b₂ h₁ h₂
    obtain rfl := Option.some.inj hjoined
    exact ⟨⟨h₁, h₂⟩, hserver.trans (by rw [finished, h₁]), hclient.trans (by rw [finished, h₂])⟩
  · rename_i e _ h₁ h₂
    obtain ⟨total, ht⟩ := hc.returned h₁
    cases ht
  · rename_i _ e h₁ h₂
    obtain ⟨total, ht⟩ := hs.returned h₂
    cases ht
  · cases hjoined

theorem c2s_sound (h : Sound clientBytes serverBytes s) {e : Splice.Event} (he : ∀ failed, e ≠ .pipe failed)
    {c2s : Splice.State} (hstep : Splice.step zeroCopyC2s s.c2s e = some c2s) :
    Sound clientBytes serverBytes { s with c2s := c2s, serverShut := s.serverShut || finished c2s } := by
  have hmove := step_move hstep
  obtain ⟨hrunning, hbegun⟩ := splice_begun rfl rfl he hmove
  refine ⟨h.c2s.move rfl rfl hmove, h.s2c, ?_⟩
  have hphase := h.phase
  unfold PhaseSound at hphase ⊢
  have hopen : s.c2s.stage ≠ .opening := fun ho => by simp [running, ho] at hrunning
  have hlive : finished s.c2s = false := by rw [Begun.finished (.inl hrunning), hrunning]; rfl
  cases hp : s.phase with
  | clientNodelay | serverNodelay | firstPipe =>
    rw [hp] at hphase
    exact absurd hphase.1.1 hopen
  | secondPipe =>
    rw [hp] at hphase
    obtain ⟨⟨-, hs⟩, hserver, hclient⟩ := hphase
    exact ⟨⟨hbegun, hs⟩, by rw [hserver, hlive]; rfl, hclient⟩
  | joining =>
    rw [hp] at hphase
    obtain ⟨⟨-, hs⟩, hserver, hclient⟩ := hphase
    exact ⟨⟨hbegun, hs⟩, by rw [hserver, hlive]; rfl, hclient⟩
  | returned result =>
    rw [hp] at hphase
    cases result with
    | error e =>
      obtain ⟨hs, hserver, hclient⟩ := hphase
      exact ⟨hs, by rw [hserver, hrunning]; exact hbegun.finished, hclient⟩
    | ok counts =>
      have hover := hphase.1.1
      simp [running, hover] at hrunning

theorem s2c_sound (h : Sound clientBytes serverBytes s) {e : Splice.Event} (he : ∀ failed, e ≠ .pipe failed)
    {s2c : Splice.State} (hstep : Splice.step zeroCopyS2c s.s2c e = some s2c) :
    Sound clientBytes serverBytes { s with s2c := s2c, clientShut := s.clientShut || finished s2c } := by
  have hmove := step_move hstep
  obtain ⟨hrunning, hbegun⟩ := splice_begun rfl rfl he hmove
  refine ⟨h.c2s, h.s2c.move rfl rfl hmove, ?_⟩
  have hphase := h.phase
  unfold PhaseSound at hphase ⊢
  have hopen : s.s2c.stage ≠ .opening := fun ho => by simp [running, ho] at hrunning
  have hlive : finished s.s2c = false := by rw [Begun.finished (.inl hrunning), hrunning]; rfl
  cases hp : s.phase with
  | clientNodelay | serverNodelay | firstPipe | secondPipe =>
    rw [hp] at hphase
    exact absurd hphase.1.2 hopen
  | joining =>
    rw [hp] at hphase
    obtain ⟨⟨hc, -⟩, hserver, hclient⟩ := hphase
    exact ⟨⟨hc, hbegun⟩, hserver, by rw [hclient, hlive]; rfl⟩
  | returned result =>
    rw [hp] at hphase
    cases result with
    | error e =>
      have hidle := hphase.1.2
      simp [hidle] at hrunning
    | ok counts =>
      have hover := hphase.1.2
      simp [running, hover] at hrunning

theorem step_sound {e : Event} (h : Sound clientBytes serverBytes s) (ht : step s e = some t) :
    Sound clientBytes serverBytes t := by
  cases e with
  | nodelay failed => exact nodelay_sound h ht
  | c2s e =>
    cases e with
    | pipe failed => exact firstPipe_sound h ht
    | fill r | drain r =>
      obtain ⟨c2s, hstep, rfl⟩ := Option.map_eq_some_iff.mp ht
      exact c2s_sound h (by simp) hstep
  | s2c e =>
    cases e with
    | pipe failed => exact secondPipe_sound h ht
    | fill r | drain r =>
      obtain ⟨s2c, hstep, rfl⟩ := Option.map_eq_some_iff.mp ht
      exact s2c_sound h (by simp) hstep
  | join => exact join_sound h ht

theorem Sound.prefixes (h : Sound clientBytes serverBytes s) :
    s.c2s.delivered <+: clientBytes ∧ s.s2c.delivered <+: serverBytes := by
  constructor
  · refine ⟨s.c2s.pipe ++ s.c2s.rest, ?_⟩
    rw [← List.append_assoc, ← h.c2s.sound.consumed, ← h.c2s.sound.source]
  · refine ⟨s.s2c.pipe ++ s.s2c.rest, ?_⟩
    rw [← List.append_assoc, ← h.s2c.sound.consumed, ← h.s2c.sound.source]

theorem Direction.count {source : Bytes} {d : Splice.State} (h : Direction source d) {total : ℕ}
    (ht : d.stage = .returned (.ok total)) : total = d.delivered.length ∧ d.closedRead = 1 ∧ d.closedWrite = 1 :=
  ⟨(h.bounded.total total ht).trans h.sound.total, h.counted total ht⟩

theorem zero_copy_session_ends {es : List Event} (h : Transitions.run step (init clientBytes serverBytes) es = some s) :
    (s.c2s.delivered <+: clientBytes ∧ s.s2c.delivered <+: serverBytes) ∧
      (∀ b₁ b₂, s.phase = .returned (.ok (b₁, b₂)) →
        (b₁ = s.c2s.delivered.length ∧ s.c2s.closedRead = 1 ∧ s.c2s.closedWrite = 1) ∧
          (b₂ = s.s2c.delivered.length ∧ s.s2c.closedRead = 1 ∧ s.s2c.closedWrite = 1) ∧
          s.serverShut = true ∧ s.clientShut = true) ∧
      ∀ e, s.phase = .returned (.error e) → s.s2c.delivered = [] ∧ running s.s2c = false ∧ s.clientShut = true ∧
        (s.serverShut = false ↔ running s.c2s = true) ∧
        (running s.c2s = true → s.c2s.closedRead = 0 ∧ s.c2s.closedWrite = 0) := by
  have hsound : Sound clientBytes serverBytes s :=
    Transitions.run_invariant h (init_sound clientBytes serverBytes) (fun _ _ _ hu he => step_sound hu he)
  have hphase := hsound.phase
  unfold PhaseSound at hphase
  refine ⟨hsound.prefixes, ?_, ?_⟩
  · intro b₁ b₂ hp
    rw [hp] at hphase
    obtain ⟨⟨hc, hs⟩, hshut⟩ := hphase
    exact ⟨hsound.c2s.count hc, hsound.s2c.count hs, hshut⟩
  · intro e hp
    rw [hp] at hphase
    obtain ⟨⟨hdelivered, hidle⟩, hserver, hclient⟩ := hphase
    exact ⟨hdelivered, hidle, hclient, by simp [hserver], hsound.c2s.live⟩

def sampleSetup : List Event := [.nodelay none, .nodelay none, .c2s (.pipe none)]

def sampleTransfer : List Event :=
  [.c2s (.fill (.moved 2)), .s2c (.pipe none), .s2c (.fill (.moved 1)), .c2s (.drain (.moved 2)), .s2c (.drain (.moved 1)),
    .c2s (.fill .zero), .s2c (.fill .zero), .join]

theorem sample_session_ends :
    ∃ s, Transitions.run step (init [1, 2] [9]) (sampleSetup ++ sampleTransfer) = some s ∧
      s.phase = .returned (.ok (2, 1)) ∧ s.c2s.delivered.length = 2 ∧ s.serverShut = true := by
  have hrun : (Transitions.run step (init [1, 2] [9]) (sampleSetup ++ sampleTransfer)).map (·.phase) =
      some (.returned (.ok (2, 1))) := by decide +kernel
  obtain ⟨s, hs, hphase⟩ := Option.map_eq_some_iff.mp hrun
  obtain ⟨⟨hcount, -⟩, -, hshut, -⟩ := (zero_copy_session_ends hs).2.1 2 1 hphase
  exact ⟨s, hs, hphase, hcount.symm, hshut⟩

end GscFq.ZeroCopySession
