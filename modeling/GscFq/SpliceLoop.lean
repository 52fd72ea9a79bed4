import GscFq.ByteStream
import GscFq.Errors
import GscFq.Transitions

namespace GscFq.Splice

open ByteStream

inductive SpliceError where
  | wouldBlock
  | interrupted
  | other (e : IoError)
  deriving DecidableEq, Repr

/-- What one `splice` call returns: a positive count, 0 or the last error. -/
inductive Outcome where
  | moved (n : ℕ)
  | zero
  | error (e : SpliceError)
  deriving DecidableEq, Repr

inductive Reaction where
  | retry
  | leave
  | fail (e : AppError)

/-- The loop all splicing functions share: `fill` moves a chunk from the source into the pipe, `drain` moves
it on to the destination. Leaving `drain` early leads back to `fill`, leaving `fill` ends the loop. -/
structure Loop where
  pipeFailed : IoError → AppError
  chunk : ℕ
  onFillError : SpliceError → Reaction
  onDrainError : SpliceError → Reaction

def zeroCopyError : SpliceError → Reaction
  | .wouldBlock => .retry
  | .interrupted => .leave
  | .other _ => .leave

def spliceError (label : String) : SpliceError → Reaction
  | .wouldBlock => .retry
  | .interrupted => .retry
  | .other e => .fail (forwardingError label e)

def zeroCopyC2s : Loop := ⟨.io, 128 * 1024, zeroCopyError, zeroCopyError⟩

def zeroCopyS2c : Loop := ⟨.io, 128 * 1024, zeroCopyError, zeroCopyError⟩

def spliceBlocking : Loop :=
  ⟨forwardingError "Pipe creation failed: ", 256 * 1024, spliceError "Splice reader→pipe failed: ",
    spliceError "Splice pipe→writer failed: "⟩

def spliceAdaptiveBlocking (chunkSize : ℕ) : Loop :=
  ⟨forwardingError "Pipe creation failed: ", chunkSize, spliceError "Splice failed: ", spliceError "Splice failed: "⟩

inductive Stage where
  | opening
  | filling
  | draining (remaining : ℕ)
  | returned (result : Except AppError ℕ)
  deriving DecidableEq

def Stage.pending : Stage → ℕ
  | .draining remaining => remaining
  | _ => 0

/-- The loop and its three byte queues; `consumed` and `eof` record what `fill` got from the source. -/
structure State where
  rest : Bytes
  pipe : Bytes
  delivered : Bytes
  total : ℕ
  stage : Stage
  closedRead : ℕ
  closedWrite : ℕ
  consumed : Bytes
  eof : Bool

def State.init (source : Bytes) : State := ⟨source, [], [], 0, .opening, 0, 0, [], false⟩

def State.finish (s : State) (result : Except AppError ℕ) : State :=
  { s with stage := .returned result, closedRead := s.closedRead + 1, closedWrite := s.closedWrite + 1 }

def State.take (s : State) (n : ℕ) : State :=
  { s with rest := s.rest.drop n
           pipe := s.pipe ++ s.rest.take n
           stage := .draining n
           consumed := s.consumed ++ s.rest.take n }

def State.give (s : State) (remaining n : ℕ) : State :=
  { s with pipe := s.pipe.drop n
           delivered := s.delivered ++ s.pipe.take n
           total := s.total + n
           stage := if n < remaining then .draining (remaining - n) else .filling }

inductive Event where
  | pipe (failed : Option IoError)
  | fill (r : Outcome)
  | drain (r : Outcome)
  deriving DecidableEq, Repr

def fill (l : Loop) (s : State) : Outcome → Option State
  | .moved n =>
    if 0 < n ∧ n ≤ l.chunk ∧ n ≤ s.rest.length then some (s.take n) else none
  | .zero => some (State.finish { s with eof := true } (.ok s.total))
  | .error e =>
    match l.onFillError e with
    | .retry => some s
    | .leave => some (s.finish (.ok s.total))
    | .fail err => some (s.finish (.error err))

def drain (l : Loop) (s : State) (remaining : ℕ) : Outcome → Option State
  | .moved n =>
    if 0 < n ∧ n ≤ remaining ∧ n ≤ s.pipe.length then some (s.give remaining n) else none
  | .zero => some { s with stage := .filling }
  | .error e =>
    match l.onDrainError e with
    | .retry => some s
    | .leave => some { s with stage := .filling }
    | .fail err => some (s.finish (.error err))

def step (l : Loop) (s : State) (e : Event) : Option State :=
  match s.stage, e with
  | .opening, .pipe none => some { s with stage := .filling }
  | .opening, .pipe (some err) => some { s with stage := .returned (.error (l.pipeFailed err)) }
  | .filling, .fill r => fill l s r
  | .draining remaining, .drain r => drain l s remaining r
  | _, _ => none

def run (l : Loop) (source : Bytes) (es : List Event) : Option State := Transitions.run (step l) (.init source) es

inductive Move (l : Loop) (s : State) : Event → State → Prop
  | opened (hs : s.stage = .opening) : Move l s (.pipe none) { s with stage := .filling }
  | refused (hs : s.stage = .opening) (err : IoError) :
      Move l s (.pipe (some err)) { s with stage := .returned (.error (l.pipeFailed err)) }
  | taken (hs : s.stage = .filling) {n : ℕ} (hpos : 0 < n) (hchunk : n ≤ l.chunk) (hrest : n ≤ s.rest.length) :
      Move l s (.fill (.moved n)) (s.take n)
  | ended (hs : s.stage = .filling) : Move l s (.fill .zero) (State.finish { s with eof := true } (.ok s.total))
  | fillAgain (hs : s.stage = .filling) {e : SpliceError} (hr : l.onFillError e = .retry) :
      Move l s (.fill (.error e)) s
  | fillLeft (hs : s.stage = .filling) {e : SpliceError} (hr : l.onFillError e = .leave) :
      Move l s (.fill (.error e)) (s.finish (.ok s.total))
  | fillFailed (hs : s.stage = .filling) {e : SpliceError} {err : AppError} (hr : l.onFillError e = .fail err) :
      Move l s (.fill (.error e)) (s.finish (.error err))
  | given {remaining n : ℕ} (hs : s.stage = .draining remaining) (hpos : 0 < n) (hrem : n ≤ remaining)
      (hpipe : n ≤ s.pipe.length) : Move l s (.drain (.moved n)) (s.give remaining n)
  | drainEmpty {remaining : ℕ} (hs : s.stage = .draining remaining) :
      Move l s (.drain .zero) { s with stage := .filling }
  | drainAgain {remaining : ℕ} (hs : s.stage = .draining remaining) {e : SpliceError} (hr : l.onDrainError e = .retry) :
      Move l s (.drain (.error e)) s
  | drainLeft {remaining : ℕ} (hs : s.stage = .draining remaining) {e : SpliceError} (hr : l.onDrainError e = .leave) :
      Move l s (.drain (.error e)) { s with stage := .filling }
  | drainFailed {remaining : ℕ} (hs : s.stage = .draining remaining) {e : SpliceError} {err : AppError}
      (hr : l.onDrainError e = .fail err) : Move l s (.drain (.error e)) (s.finish (.error err))

theorem step_move {l : Loop} {s t : State} {e : Event} (h : step l s e = some t) : Move l s e t := by
  unfold step at h
  split at h
  · rename_i hs
    cases h
    exact .opened hs
  · rename_i err hs
    cases h
    exact .refused hs err
  · rename_i r hs
    cases r with
    | moved n =>
      simp only [fill] at h
      split at h
      · rename_i hn
        cases h
        exact .taken hs hn.1 hn.2.1 hn.2.2
      · cases h
    | zero =>
      cases h
      exact .ended hs
    | error e =>
      simp only [fill] at h
      split at h
      · rename_i hr
        cases h
        exact .fillAgain hs hr
      · rename_i hr
        cases h
        exact .fillLeft hs hr
      · rename_i hr
        cases h
        exact .fillFailed hs hr
  · rename_i remaining r hs
    cases r with
    | moved n =>
      simp only [drain] at h
      split at h
      · rename_i hn
        cases h
        exact .given hs hn.1 hn.2.1 hn.2.2
      · cases h
    | zero =>
      cases h
      exact .drainEmpty hs
    | error e =>
      simp only [drain] at h
      split at h
      · rename_i hr
        cases h
        exact .drainAgain hs hr
      · rename_i hr
        cases h
        exact .drainLeft hs hr
      · rename_i hr
        cases h
        exact .drainFailed hs hr
  · cases h

/-- Every byte taken from the source is delivered or in the pipe, in the order it was taken. -/
structure Sound (source : Bytes) (s : State) : Prop where
  source : source = s.consumed ++ s.rest
  consumed : s.consumed = s.delivered ++ s.pipe
  total : s.total = s.delivered.length

theorem Sound.move {l : Loop} {source : Bytes} {s t : State} {e : Event} (h : Sound source s) (hm : Move l s e t) :
    Sound source t := by
  cases hm with
  | @taken _ n =>
    refine ⟨?_, ?_, h.total⟩
    · change source = (s.consumed ++ s.rest.take n) ++ s.rest.drop n
      rw [List.append_assoc, List.take_append_drop]
      exact h.source
    · change s.consumed ++ s.rest.take n = s.delivered ++ (s.pipe ++ s.rest.take n)
      rw [h.consumed, List.append_assoc]
  | @given remaining n _ _ _ hpipe =>
    refine ⟨h.source, ?_, ?_⟩
    · change s.consumed = (s.delivered ++ s.pipe.take n) ++ s.pipe.drop n
      rw [List.append_assoc, List.take_append_drop]
      exact h.consumed
    · change s.total + n = (s.delivered ++ s.pipe.take n).length
      rw [List.length_append, List.length_take, Nat.min_eq_left hpipe, h.total]
  | opened | refused | ended | fillAgain | fillLeft | fillFailed | drainEmpty | drainAgain | drainLeft | drainFailed =>
    exact ⟨h.source, h.consumed, h.total⟩

theorem run_sound {l : Loop} {source : Bytes} {es : List Event} {s : State} (h : run l source es = some s) :
    Sound source s := by
  apply Transitions.run_invariant h
  · exact ⟨rfl, rfl, rfl⟩
  · intro u e t hu he
    exact hu.move (step_move he)

/-- In every state a run reaches, what was delivered is the beginning of the source, and `total` counts it. -/
def DeliversPrefix (l : Loop) : Prop :=
  ∀ source es s, run l source es = some s → s.delivered <+: source ∧ s.total = s.delivered.length

theorem deliversPrefix (l : Loop) : DeliversPrefix l := by
  intro source es s h
  have hs := run_sound h
  refine ⟨⟨s.pipe ++ s.rest, ?_⟩, hs.total⟩
  rw [hs.source, hs.consumed, List.append_assoc]

theorem splice_loops_deliver_prefix :
    DeliversPrefix zeroCopyC2s ∧ DeliversPrefix zeroCopyS2c ∧ DeliversPrefix spliceBlocking ∧
      ∀ chunkSize, DeliversPrefix (spliceAdaptiveBlocking chunkSize) :=
  ⟨deliversPrefix _, deliversPrefix _, deliversPrefix _, fun _ => deliversPrefix _⟩

end GscFq.Splice
