import GscFq.Errors
import GscFq.StreamIo
import GscFq.Transitions

/-!
The probes of `QualityAwareConnection`, which read from the socket that `into_inner` hands over.
-/

namespace GscFq.QualityAwareConnection

open ByteStream StreamIo Transitions

/-- `ending` is what comes after the bytes of the receive queue, once it is known: the end of file or an error. -/
structure TcpStream where
  queue : Bytes
  ending : Option (Option IoError)
  deriving DecidableEq, Repr

/-- A socket not yet reported ready gives `WouldBlock` whatever its queue holds. -/
def TcpStream.tryRead (ready : Bool) (cap : ℕ) (stream : TcpStream) : ReadResult IoError × TcpStream :=
  if ready then
    match stream.queue, stream.ending with
    | [], none => (.wouldBlock, stream)
    | [], some none => (.data [], stream)
    | [], some (some e) => (.error e, stream)
    | b :: bs, _ => (.data ((b :: bs).take cap), { stream with queue := (b :: bs).drop cap })
  else (.wouldBlock, stream)

def measureRtt (ready : Bool) (elapsed : ℕ) (stream : TcpStream) : Except IoError ℕ × TcpStream :=
  match stream.tryRead ready 1 with
  | (.data _, stream) => (.ok elapsed, stream)
  | (.wouldBlock, stream) => (.ok elapsed, stream)
  | (.error e, stream) => (.error e, stream)

def isAlive (ready : Bool) (stream : TcpStream) : Bool × TcpStream :=
  match stream.tryRead ready 1 with
  | (.data _, stream) => (true, stream)
  | (.wouldBlock, stream) => (true, stream)
  | (.error _, stream) => (false, stream)

/-- `sent` and `received` are history: what the peer has sent, and what was read after `into_inner`. -/
structure State where
  stream : TcpStream
  inner : Bool
  sent : Bytes
  received : Bytes
  deriving DecidableEq, Repr

def init (stream : TcpStream) : State := ⟨stream, false, stream.queue, []⟩

inductive Event where
  | arrive (d : Bytes)
  | close (ending : Option IoError)
  | isAlive (ready : Bool)
  | measureRtt (ready : Bool) (elapsed : ℕ)
  | intoInner
  | read (ready : Bool) (cap : ℕ)
  deriving DecidableEq, Repr

def step (s : State) : Event → Option State
  | .arrive d =>
    if s.stream.ending = none then
      some { s with stream := { s.stream with queue := s.stream.queue ++ d }, sent := s.sent ++ d }
    else none
  | .close ending =>
    if s.stream.ending = none then some { s with stream := { s.stream with ending := some ending } } else none
  | .isAlive ready =>
    if s.inner then none else some { s with stream := (QualityAwareConnection.isAlive ready s.stream).2 }
  | .measureRtt ready elapsed =>
    if s.inner then none else some { s with stream := (QualityAwareConnection.measureRtt ready elapsed s.stream).2 }
  | .intoInner => if s.inner then none else some { s with inner := true }
  | .read ready cap =>
    if s.inner then
      match s.stream.tryRead ready cap with
      | (.data d, stream) => some { s with stream := stream, received := s.received ++ d }
      | (_, stream) => some { s with stream := stream }
    else none

abbrev run (stream : TcpStream) (es : List Event) : Option State := Transitions.run step (init stream) es

/-- What was read and what is still to be read are the bytes the peer sent. -/
def Undisturbed (s : State) : Prop := s.received ++ s.stream.queue = s.sent

/-- Nothing is read that the peer has not sent, and nothing out of order. -/
def InOrder (s : State) : Prop := (s.received ++ s.stream.queue).Sublist s.sent

/-- A probe that gets at the socket finds its queue empty. -/
def Harmless (s : State) : Event → Prop
  | .isAlive ready => ready = true → s.stream.queue = []
  | .measureRtt ready _ => ready = true → s.stream.queue = []
  | _ => True

instance : ∀ s e, Decidable (Harmless s e)
  | s, .isAlive ready => inferInstanceAs (Decidable (ready = true → s.stream.queue = []))
  | s, .measureRtt ready _ => inferInstanceAs (Decidable (ready = true → s.stream.queue = []))
  | _, .arrive _ | _, .close _ | _, .intoInner | _, .read _ _ => inferInstanceAs (Decidable True)

theorem isAlive_stream (ready : Bool) (stream : TcpStream) :
    (isAlive ready stream).2 = (stream.tryRead ready 1).2 := by
  unfold isAlive
  split <;> rename_i h <;> rw [h]

theorem measureRtt_stream (ready : Bool) (elapsed : ℕ) (stream : TcpStream) :
    (measureRtt ready elapsed stream).2 = (stream.tryRead ready 1).2 := by
  unfold measureRtt
  split <;> rename_i h <;> rw [h]

theorem tryRead_cases (ready : Bool) (cap : ℕ) (stream : TcpStream) :
    (∃ r, stream.tryRead ready cap = (r, stream) ∧ (∀ d, r = .data d → d = []) ∧ (ready = true → stream.queue = [])) ∨
      ready = true ∧ stream.tryRead ready cap =
        (.data (stream.queue.take cap), { stream with queue := stream.queue.drop cap }) := by
  unfold TcpStream.tryRead
  cases ready with
  | false => exact .inl ⟨.wouldBlock, rfl, by rintro d ⟨⟩, by rintro ⟨⟩⟩
  | true =>
    rw [if_pos rfl]
    split
    · rename_i hqueue _
      exact .inl ⟨.wouldBlock, rfl, by rintro d ⟨⟩, fun _ => hqueue⟩
    · rename_i hqueue _
      exact .inl ⟨.data [], rfl, by rintro d ⟨⟩; rfl, fun _ => hqueue⟩
    · rename_i e hqueue _
      exact .inl ⟨.error e, rfl, by rintro d ⟨⟩, fun _ => hqueue⟩
    · rename_i hqueue
      rw [hqueue]
      exact .inr ⟨rfl, rfl⟩

theorem tryRead_data {ready : Bool} {cap : ℕ} {stream stream' : TcpStream} {d : Bytes}
    (h : stream.tryRead ready cap = (.data d, stream')) : stream.queue = d ++ stream'.queue := by
  rcases tryRead_cases ready cap stream with ⟨r, hr, hnil, -⟩ | ⟨-, hr⟩
  · cases hr.symm.trans h
    rw [hnil d rfl, List.nil_append]
  · cases hr.symm.trans h
    exact (List.take_append_drop ..).symm

theorem tryRead_same {ready : Bool} {cap : ℕ} {stream stream' : TcpStream} {r : ReadResult IoError}
    (h : stream.tryRead ready cap = (r, stream')) (hr : ∀ d, r ≠ .data d) : stream' = stream := by
  rcases tryRead_cases ready cap stream with ⟨r', hr', -⟩ | ⟨-, hr'⟩
  · cases hr'.symm.trans h
    rfl
  · cases hr'.symm.trans h
    exact absurd rfl (hr _)

theorem probe_queue (ready : Bool) (stream : TcpStream) :
    (stream.tryRead ready 1).2.queue = if ready then stream.queue.tail else stream.queue := by
  rcases tryRead_cases ready 1 stream with ⟨r, hr, -, hempty⟩ | ⟨rfl, hr⟩
  · rw [hr]
    cases ready with
    | false => rfl
    | true => simp [hempty rfl]
  · rw [hr, if_pos rfl]
    exact List.drop_one

inductive Moved (s t : State) : Event → Prop
  | arrived {d : Bytes} (hqueue : t.stream.queue = s.stream.queue ++ d) (hreceived : t.received = s.received)
      (hsent : t.sent = s.sent ++ d) : Moved s t (.arrive d)
  | probed {e : Event} {ready : Bool} (he : e = .isAlive ready ∨ ∃ elapsed, e = .measureRtt ready elapsed)
      (hqueue : t.stream.queue = if ready then s.stream.queue.tail else s.stream.queue)
      (hreceived : t.received = s.received) (hsent : t.sent = s.sent) : Moved s t e
  | passed {e : Event} (he : Harmless s e)
      (hbytes : t.received ++ t.stream.queue = s.received ++ s.stream.queue) (hsent : t.sent = s.sent) : Moved s t e

theorem step_moved {s t : State} {e : Event} (h : step s e = some t) : Moved s t e := by
  cases e with
  | arrive d =>
    simp only [step] at h
    split at h
    · cases h
      exact .arrived rfl rfl rfl
    · cases h
  | close ending =>
    simp only [step] at h
    split at h
    · cases h
      exact .passed trivial rfl rfl
    · cases h
  | isAlive ready =>
    simp only [step] at h
    split at h
    · cases h
    · cases h
      refine .probed (.inl rfl) ?_ rfl rfl
      dsimp only
      rw [isAlive_stream, probe_queue]
  | measureRtt ready elapsed =>
    simp only [step] at h
    split at h
    · cases h
    · cases h
      refine .probed (.inr ⟨elapsed, rfl⟩) ?_ rfl rfl
      dsimp only
      rw [measureRtt_stream, probe_queue]
  | intoInner =>
    simp only [step] at h
    split at h
    · cases h
    · cases h
      exact .passed trivial rfl rfl
  | read ready cap =>
    simp only [step] at h
    split at h
    · split at h
      · rename_i d stream hread
        cases h
        refine .passed trivial ?_ rfl
        rw [tryRead_data hread, List.append_assoc]
      · rename_i r stream hno hread
        cases h
        refine .passed trivial ?_ rfl
        rw [tryRead_same hread hno]
    · cases h

theorem Moved.inOrder {s t : State} {e : Event} (h : Moved s t e) (hs : InOrder s) : InOrder t := by
  unfold InOrder
  cases h with
  | arrived hqueue hreceived hsent =>
    rw [hqueue, hreceived, hsent, ← List.append_assoc]
    exact hs.append (List.Sublist.refl _)
  | @probed _ ready _ hqueue hreceived hsent =>
    rw [hqueue, hreceived, hsent]
    refine List.Sublist.trans ((List.Sublist.refl _).append ?_) hs
    split
    · exact List.tail_sublist _
    · exact List.Sublist.refl _
  | passed _ hbytes hsent =>
    rw [hbytes, hsent]
    exact hs

theorem Moved.undisturbed_iff {s t : State} {e : Event} (h : Moved s t e)
    (hs : InOrder s) : Undisturbed t ↔ Undisturbed s ∧ Harmless s e := by
  unfold Undisturbed
  cases h with
  | arrived hqueue hreceived hsent =>
    rw [hqueue, hreceived, hsent, ← List.append_assoc, List.append_cancel_right_eq]
    simp [Harmless]
  | @probed _ ready he hqueue hreceived hsent =>
    have hharm : Harmless s e ↔ (ready = true → s.stream.queue = []) := by
      rcases he with rfl | ⟨elapsed, rfl⟩ <;> rfl
    rw [hqueue, hreceived, hsent, hharm]
    cases ready with
    | false => simp
    | true =>
      simp only [if_true, forall_const]
      constructor
      · intro htail
        -- a byte taken away leaves fewer than the peer sent
        have hlen := hs.length_le
        rw [← htail, List.length_append, List.length_append, List.length_tail] at hlen
        have hnil : s.stream.queue = [] := List.eq_nil_of_length_eq_zero (by omega)
        rw [hnil, List.tail_nil] at htail
        rw [hnil]
        exact ⟨htail, rfl⟩
      · rintro ⟨hall, hnil⟩
        rw [hnil] at hall
        rw [hnil, List.tail_nil, hall]
  | passed he hbytes hsent =>
    rw [hbytes, hsent]
    exact ⟨fun hall => ⟨hall, he⟩, fun hall => hall.1⟩

theorem step_inOrder {s t : State} {e : Event} (hs : InOrder s) (h : step s e = some t) : InOrder t :=
  (step_moved h).inOrder hs

theorem init_inOrder (stream : TcpStream) : InOrder (init stream) := List.Sublist.refl _

theorem run_inOrder {stream : TcpStream} {es : List Event} {s : State} (h : run stream es = some s) : InOrder s :=
  run_invariant h (init_inOrder stream) (fun _ _ _ hu he => step_inOrder hu he)

theorem probes_undisturbed_iff {stream : TcpStream} {es : List Event} {s : State} (h : run stream es = some s) :
    Undisturbed s ↔ ∀ u e, Occurs step (init stream) es u e → Harmless u e := by
  apply run_iff_occurs (I := InOrder) (A := Undisturbed) h (init_inOrder stream) rfl
  · intro u e t hu he
    exact step_inOrder hu he
  · intro u e t hu he
    exact (step_moved he).undisturbed_iff hu

def sampleStream : TcpStream := ⟨[], none⟩

def sampleProbes : List Event :=
  [.isAlive true, .measureRtt true 0, .arrive [7, 8, 9], .isAlive false, .intoInner, .read true 16]

theorem idle_probes_undisturbed :
    ∃ s, run sampleStream sampleProbes = some s ∧ s.received = [7, 8, 9] ∧ Undisturbed s := by
  have hrun : run sampleStream sampleProbes = some ⟨sampleStream, true, [7, 8, 9], [7, 8, 9]⟩ := by decide
  have hall : ∀ p ∈ steps step (init sampleStream) sampleProbes, Harmless p.1 p.2 := by decide
  exact ⟨_, hrun, rfl, (probes_undisturbed_iff hrun).mpr (fun u e ho => hall (u, e) ho.mem_steps)⟩

theorem pending_byte_consumed :
    ∃ s, run sampleStream [.arrive [7, 8, 9], .isAlive true, .intoInner, .read true 16] = some s ∧
      s.sent = [7, 8, 9] ∧ s.received = [8, 9] ∧ ¬ Undisturbed s := by
  refine ⟨_, rfl, rfl, rfl, ?_⟩
  rw [Undisturbed]
  decide

end GscFq.QualityAwareConnection
