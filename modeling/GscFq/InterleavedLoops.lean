import GscFq.Loops
import GscFq.Transitions

/-! Tasks that run a loop each, one turn at a time and in any order. -/

namespace GscFq.Loops

variable {S R R' : Type}

def Turn.map (f : R → R') : Turn S R → Turn S R'
  | .again s => .again s
  | .done r => .done (f r)

/-- The loop that gives its result out in another form. -/
def Loop.map (f : R → R') (l : Loop S R) : Loop S R' where
  body s := (l.body s).map f
  measure := l.measure
  decreases s s' h := by
    cases hb : l.body s with
    | again s'' =>
      rw [hb] at h
      cases h
      exact l.decreases s _ hb
    | done r =>
      rw [hb] at h
      cases h

/-- A loop of a single turn. -/
def Loop.once (f : S → R) : Loop S R := ⟨fun s => .done (f s), fun _ => 0, nofun⟩

inductive Task (S R : Type) where
  | running (s : S)
  | returned (r : R)

def Loop.turn (l : Loop S R) : Task S R → Option (Task S R)
  | .running s =>
    match l.body s with
    | .again s' => some (.running s')
    | .done r => some (.returned r)
  | .returned _ => none

/-- The turns that may be left. -/
def Loop.left (l : Loop S R) : Task S R → ℕ
  | .running s => l.measure s + 1
  | .returned _ => 0

/-- What the task will return, or has. -/
def Loop.outcome (l : Loop S R) : Task S R → R
  | .running s => l.result s
  | .returned r => r

section

variable {ι : Type} [DecidableEq ι] (l : Loop S R)

def turns (tasks : ι → Task S R) (i : ι) : Option (ι → Task S R) := (l.turn (tasks i)).map (Function.update tasks i)

variable {l}

end

end GscFq.Loops
