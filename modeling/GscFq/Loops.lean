import Mathlib.Data.Nat.Basic
import Mathlib.Tactic

namespace GscFq.Loops

variable {S R : Type}

inductive Turn (S R : Type) where
  | again (s : S)
  | done (r : R)

/-- A loop whose body brings a measure of its state down whenever it goes round again. -/
structure Loop (S R : Type) where
  body : S → Turn S R
  measure : S → ℕ
  decreases : ∀ s s', body s = .again s' → measure s' < measure s

def run (body : S → Turn S R) : ℕ → S → Option R
  | 0, _ => none
  | fuel + 1, s =>
    match body s with
    | .again s' => run body fuel s'
    | .done r => some r

theorem Loop.run_isSome (l : Loop S R) {fuel : ℕ} {s : S} (h : l.measure s < fuel) :
    (run l.body fuel s).isSome = true := by
  induction fuel generalizing s with
  | zero => omega
  | succ fuel ih =>
    unfold run
    split
    · rename_i s' hs'
      have hlt := l.decreases s s' hs'
      exact ih (by omega)
    · rfl

def Loop.result (l : Loop S R) (s : S) : R :=
  (run l.body (l.measure s + 1) s).get (l.run_isSome (Nat.lt_succ_self _))

theorem run_spec {body : S → Turn S R} {I : S → Prop} {Q : R → Prop}
    (hagain : ∀ s s', I s → body s = .again s' → I s') (hdone : ∀ s r, I s → body s = .done r → Q r)
    {fuel : ℕ} {s : S} {r : R} (hs : I s) (h : run body fuel s = some r) : Q r := by
  induction fuel generalizing s with
  | zero => cases h
  | succ fuel ih =>
    unfold run at h
    split at h
    · rename_i s' hs'
      exact ih (hagain s s' hs hs') h
    · rename_i r' hr'
      cases h
      exact hdone s r hs hr'

/-- The rule of the loop: what holds at the start of every turn, and what follows from it at the exit. -/
theorem Loop.result_spec (l : Loop S R) {I : S → Prop} {Q : R → Prop}
    (hagain : ∀ s s', I s → l.body s = .again s' → I s') (hdone : ∀ s r, I s → l.body s = .done r → Q r)
    {s : S} (hs : I s) : Q (l.result s) := by
  have hrun : run l.body (l.measure s + 1) s = some (l.result s) := (Option.some_get _).symm
  exact run_spec hagain hdone hs hrun

theorem Loop.result_turns (l : Loop S R) {T : S → Turn S R → Prop} (hturn : ∀ s, T s (l.body s)) {I : S → Prop}
    {Q : R → Prop} (hagain : ∀ s s', I s → T s (.again s') → I s') (hdone : ∀ s r, I s → T s (.done r) → Q r)
    {s : S} (hs : I s) : Q (l.result s) := by
  apply l.result_spec _ _ hs
  · intro s s' hI hbody
    exact hagain s s' hI (hbody ▸ hturn s)
  · intro s r hI hbody
    exact hdone s r hI (hbody ▸ hturn s)

/-- A turn of the loop begun in `s₀` starts in `s`. -/
inductive Loop.Starts (l : Loop S R) (s₀ : S) : S → Prop
  | first : l.Starts s₀ s₀
  | next {s s' : S} (h : l.Starts s₀ s) (again : l.body s = .again s') : l.Starts s₀ s'

theorem Loop.starts_turns (l : Loop S R) {T : S → Turn S R → Prop} (hturn : ∀ s, T s (l.body s)) {I : S → Prop}
    (hagain : ∀ s s', I s → T s (.again s') → I s') {s₀ s : S} (hs : I s₀) (h : l.Starts s₀ s) : I s := by
  induction h with
  | first => exact hs
  | @next s s' _ again ih => exact hagain s s' ih (again ▸ hturn s)

end GscFq.Loops
