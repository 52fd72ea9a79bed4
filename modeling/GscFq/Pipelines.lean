import Mathlib.Data.List.Basic
import Mathlib.Tactic

/-!
A line of stages that hand their contents on in order, each with a mark that nothing more will come in. The
stages are listed from the last to the first, so that what they hold, one after the other, is what went in.
-/

namespace GscFq.Pipelines

variable {α : Type}

structure Stage (α : Type) where
  held : List α
  ended : Bool
  deriving DecidableEq, Repr

namespace Stage

def empty : Stage α := ⟨[], false⟩

def put (s : Stage α) (xs : List α) : Stage α := { s with held := s.held ++ xs }

def drop (s : Stage α) (k : ℕ) : Stage α := { s with held := s.held.drop k }

def close (s : Stage α) : Stage α := { s with ended := true }

def clear (s : Stage α) : Stage α := { s with held := [] }

@[simp] theorem put_ended (s : Stage α) (xs : List α) : (s.put xs).ended = s.ended := rfl

@[simp] theorem put_held (s : Stage α) (xs : List α) : (s.put xs).held = s.held ++ xs := rfl

@[simp] theorem drop_ended (s : Stage α) (k : ℕ) : (s.drop k).ended = s.ended := rfl

@[simp] theorem drop_held (s : Stage α) (k : ℕ) : (s.drop k).held = s.held.drop k := rfl

@[simp] theorem close_held (s : Stage α) : s.close.held = s.held := rfl

@[simp] theorem close_ended (s : Stage α) : s.close.ended = true := rfl

@[simp] theorem clear_held (s : Stage α) : s.clear.held = [] := rfl

@[simp] theorem clear_ended (s : Stage α) : s.clear.ended = s.ended := rfl

theorem put_drop (s : Stage α) (xs : List α) {k : ℕ} (hk : k ≤ s.held.length) : (s.put xs).drop k = (s.drop k).put xs := by
  simp [put, drop, List.drop_append_of_le_length hk]

theorem eq_empty {s : Stage α} (hheld : s.held = []) (hopen : s.ended = false) : s = empty := by
  obtain ⟨held, ended⟩ := s
  obtain rfl : held = [] := hheld
  obtain rfl : ended = false := hopen
  rfl

end Stage

def contents (line : List (Stage α)) : List α := line.flatMap (·.held)

/-- A stage is marked only when all that was before it has gone through it. -/
def Drained (line : List (Stage α)) : Prop :=
  line.IsChain (fun down up => down.ended = true → up.ended = true ∧ up.held = [])

/-- What one stage does: it takes over the first of what is held before it, or its mark when nothing is. -/
inductive Flow : List (Stage α) → List (Stage α) → Prop
  | pass (down up : Stage α) (line : List (Stage α)) {k : ℕ} (hk : 0 < k) (hheld : up.held ≠ []) :
      Flow (down :: up :: line) (down.put (up.held.take k) :: up.drop k :: line)
  | finish (down up : Stage α) (line : List (Stage α)) (hdown : down.ended = false) (hheld : up.held = [])
      (hup : up.ended = true) : Flow (down :: up :: line) (down.close :: up :: line)
  | later (stage : Stage α) {line line' : List (Stage α)} (h : Flow line line') : Flow (stage :: line) (stage :: line')

@[simp] theorem contents_nil : contents ([] : List (Stage α)) = [] := rfl

@[simp] theorem contents_cons (s : Stage α) (line : List (Stage α)) :
    contents (s :: line) = s.held ++ contents line := rfl

theorem contents_append (line line' : List (Stage α)) : contents (line ++ line') = contents line ++ contents line' :=
  List.flatMap_append

theorem Flow.append {line line' : List (Stage α)} (h : Flow line line') (back : List (Stage α)) :
    Flow (line ++ back) (line' ++ back) := by
  induction h with
  | pass down up line hk hheld => exact .pass down up (line ++ back) hk hheld
  | finish down up line hdown hheld hup => exact .finish down up (line ++ back) hdown hheld hup
  | later stage _ ih => exact .later stage ih

theorem Flow.prepend {line line' : List (Stage α)} (h : Flow line line') (front : List (Stage α)) :
    Flow (front ++ line) (front ++ line') := by
  induction front with
  | nil => exact h
  | cons stage front ih => exact .later stage ih

theorem Flow.contents {line line' : List (Stage α)} (h : Flow line line') : contents line' = contents line := by
  induction h with
  | pass down up line =>
    simp only [contents_cons, Stage.put_held, Stage.drop_held, List.append_assoc]
    rw [← List.append_assoc (List.take _ _), List.take_append_drop]
  | finish => rfl
  | later stage _ ih => rw [contents_cons, contents_cons, ih]

/-- The stage before which the line changes keeps seeing what it saw. -/
theorem Flow.drained_cons {line line' : List (Stage α)} (h : Flow line line') {stage : Stage α}
    (hd : Drained (stage :: line)) : Drained (stage :: line') := by
  unfold Drained at hd ⊢
  induction h generalizing stage with
  | pass down up line hk hheld =>
    simp only [List.isChain_cons_cons] at hd ⊢
    obtain ⟨hstage, hdown, hrest⟩ := hd
    refine ⟨?_, ?_, ?_⟩
    · intro hs
      exact absurd (hdown (hstage hs).1).2 hheld
    · intro hs
      exact absurd (hdown hs).2 hheld
    · cases line with
      | nil => exact List.isChain_singleton _
      | cons first line => exact List.isChain_cons_cons.mpr (List.isChain_cons_cons.mp hrest)
  | finish down up line hdown hheld hup =>
    simp only [List.isChain_cons_cons] at hd ⊢
    obtain ⟨hstage, -, hrest⟩ := hd
    exact ⟨fun hs => ⟨rfl, (hstage hs).2⟩, fun _ => ⟨hup, hheld⟩, hrest⟩
  | @later second line line' h ih =>
    obtain ⟨hstage, hrest⟩ := List.isChain_cons_cons.mp hd
    exact List.isChain_cons_cons.mpr ⟨hstage, ih hrest⟩

theorem Flow.drained {line line' : List (Stage α)} (h : Flow line line') (hd : Drained line) : Drained line' := by
  have hopen : Drained (Stage.empty :: line) := by
    cases line with
    | nil => exact List.isChain_singleton _
    | cons stage line => exact List.isChain_cons_cons.mpr ⟨by rintro ⟨⟩, hd⟩
  exact (h.drained_cons hopen).tail

/-- At a marked stage nothing is missing: what it has taken over is all that went in. -/
theorem Drained.contents_of_ended {s : Stage α} {line : List (Stage α)} (h : Drained (s :: line))
    (hs : s.ended = true) : contents (s :: line) = s.held ∧ ∀ up ∈ line, up.ended = true := by
  induction line generalizing s with
  | nil => exact ⟨List.append_nil _, by simp⟩
  | cons up line ih =>
    obtain ⟨hup, hrest⟩ := List.isChain_cons_cons.mp h
    obtain ⟨hended, hheld⟩ := hup hs
    obtain ⟨hcontents, hall⟩ := ih hrest hended
    rw [contents_cons, hcontents, hheld, List.append_nil]
    exact ⟨rfl, List.forall_mem_cons.mpr ⟨hended, hall⟩⟩

theorem drained_put {line : List (Stage α)} {s : Stage α} (xs : List α) (hs : s.ended = false)
    (h : Drained (line ++ [s])) : Drained (line ++ [s.put xs]) := by
  unfold Drained at h ⊢
  rw [List.isChain_append] at h ⊢
  refine ⟨h.1, List.isChain_singleton _, ?_⟩
  intro down hdown up hup hended
  obtain rfl : s.put xs = up := by simpa using hup
  have hopen := (h.2.2 down hdown s (by simp) hended).1
  rw [hs] at hopen
  cases hopen

theorem drained_close {line : List (Stage α)} {s : Stage α} (h : Drained (line ++ [s])) : Drained (line ++ [s.close]) := by
  unfold Drained at h ⊢
  rw [List.isChain_append] at h ⊢
  refine ⟨h.1, List.isChain_singleton _, ?_⟩
  intro down hdown up hup hended
  obtain rfl : s.close = up := by simpa using hup
  exact ⟨rfl, (h.2.2 down hdown s (by simp) hended).2⟩

theorem drained_clear {line : List (Stage α)} {s : Stage α} (h : Drained (line ++ [s])) : Drained (line ++ [s.clear]) := by
  unfold Drained at h ⊢
  rw [List.isChain_append] at h ⊢
  refine ⟨h.1, List.isChain_singleton _, ?_⟩
  intro down hdown up hup hended
  obtain rfl : s.clear = up := by simpa using hup
  exact ⟨(h.2.2 down hdown s (by simp) hended).1, rfl⟩

theorem Drained.left {line back : List (Stage α)} (h : Drained (line ++ back)) : Drained line := List.IsChain.left_of_append h

/-- How far the contents and the marks still have to go. -/
def toGo : List (Stage α) → ℕ
  | [] => 0
  | s :: line => (!s.ended).toNat + (contents line).length + toGo line

theorem Flow.toGo_lt {line line' : List (Stage α)} (h : Flow line line') : toGo line' < toGo line := by
  induction h with
  | pass down up line hk hheld =>
    have hlen := List.length_pos_iff.mpr hheld
    simp only [toGo, contents_cons, Stage.put_ended, Stage.drop_ended, Stage.drop_held, List.length_append,
      List.length_drop]
    omega
  | finish down up line hdown =>
    simp only [toGo, hdown, Stage.close_ended, Bool.not_true, Bool.not_false, Bool.toNat_true, Bool.toNat_false]
    omega
  | later stage h ih =>
    simp only [toGo, h.contents]
    omega

theorem toGo_eq_zero {s : Stage α} {line : List (Stage α)} (h : toGo (s :: line) = 0) :
    s.ended = true ∧ contents line = [] := by
  simp only [toGo, Nat.add_eq_zero_iff] at h
  obtain ⟨⟨hs, hline⟩, -⟩ := h
  refine ⟨?_, List.eq_nil_of_length_eq_zero hline⟩
  by_contra hopen
  simp [hopen] at hs

end GscFq.Pipelines
