import Mathlib.Data.List.Basic
import Mathlib.Tactic

/-!
Slices of a UTF-8 text at byte offsets. A slice is `none` where it panics: past the end, or inside a character.
-/

namespace GscFq.Text

def byteLen (cs : List Char) : ℕ := (cs.map Char.utf8Size).sum

def splitAtByte : ℕ → List Char → Option (List Char × List Char)
  | 0, cs => some ([], cs)
  | _ + 1, [] => none
  | n + 1, c :: cs =>
    if n + 1 < c.utf8Size then none
    else (splitAtByte (n + 1 - c.utf8Size) cs).map (fun parts => (c :: parts.1, parts.2))

def sliceTo (n : ℕ) (cs : List Char) : Option (List Char) := (splitAtByte n cs).map Prod.fst

def sliceFrom (n : ℕ) (cs : List Char) : Option (List Char) := (splitAtByte n cs).map Prod.snd

def findByte (c : Char) : List Char → Option ℕ
  | [] => none
  | d :: cs => if d = c then some 0 else (findByte c cs).map (d.utf8Size + ·)

/-- A character of the text starts before byte `n` and ends after it. -/
def CutsAt (n : ℕ) (cs : List Char) : Prop :=
  ∃ before c after, cs = before ++ c :: after ∧ byteLen before < n ∧ n < byteLen before + c.utf8Size

@[simp] theorem byteLen_nil : byteLen [] = 0 := rfl

@[simp] theorem byteLen_cons (c : Char) (cs : List Char) : byteLen (c :: cs) = c.utf8Size + byteLen cs := rfl

@[simp] theorem byteLen_append (xs ys : List Char) : byteLen (xs ++ ys) = byteLen xs + byteLen ys := by
  induction xs with
  | nil => simp
  | cons x xs ih => simp [ih, Nat.add_assoc]

theorem splitAtByte_append (xs ys : List Char) : splitAtByte (byteLen xs) (xs ++ ys) = some (xs, ys) := by
  induction xs with
  | nil =>
    rw [byteLen_nil, List.nil_append, splitAtByte]
  | cons x xs ih =>
    have hx := x.utf8Size_pos
    obtain ⟨n, hn⟩ : ∃ n, byteLen (x :: xs) = n + 1 := ⟨byteLen (x :: xs) - 1, by rw [byteLen_cons]; omega⟩
    rw [byteLen_cons] at hn
    rw [byteLen_cons, hn, List.cons_append, splitAtByte, if_neg (by omega), show n + 1 - x.utf8Size = byteLen xs by omega,
      ih]
    rfl

theorem splitAtByte_eq_some {n : ℕ} {cs xs ys : List Char} (h : splitAtByte n cs = some (xs, ys)) :
    cs = xs ++ ys ∧ byteLen xs = n := by
  induction cs generalizing n xs with
  | nil =>
    cases n with
    | zero =>
      simp only [splitAtByte, Option.some.injEq, Prod.mk.injEq] at h
      simp [← h.1, ← h.2]
    | succ n => simp [splitAtByte] at h
  | cons c cs ih =>
    cases n with
    | zero =>
      simp only [splitAtByte, Option.some.injEq, Prod.mk.injEq] at h
      simp [← h.1, ← h.2]
    | succ n =>
      rw [splitAtByte] at h
      split at h
      · cases h
      · obtain ⟨⟨xs', ys'⟩, hsplit, heq⟩ := Option.map_eq_some_iff.mp h
        simp only [Prod.mk.injEq] at heq
        obtain ⟨rfl, rfl⟩ := heq
        obtain ⟨rfl, hlen⟩ := ih hsplit
        refine ⟨rfl, ?_⟩
        rw [byteLen_cons]
        omega

theorem sliceTo_append {n : ℕ} {xs : List Char} (h : byteLen xs = n) (ys : List Char) : sliceTo n (xs ++ ys) = some xs := by
  rw [sliceTo, ← h, splitAtByte_append, Option.map_some]

theorem sliceFrom_append {n : ℕ} {xs : List Char} (h : byteLen xs = n) (ys : List Char) :
    sliceFrom n (xs ++ ys) = some ys := by
  rw [sliceFrom, ← h, splitAtByte_append, Option.map_some]

theorem not_cutsAt_append (xs ys : List Char) : ¬ CutsAt (byteLen xs) (xs ++ ys) := by
  rintro ⟨before, c, after, heq, hbefore, hafter⟩
  have hprefix := List.append_eq_append_iff.mp heq
  rcases hprefix with ⟨mid, rfl, -⟩ | ⟨mid, rfl, hys⟩
  · rw [byteLen_append] at hbefore
    omega
  · cases mid with
    | nil =>
      rw [List.append_nil] at hbefore
      omega
    | cons d mid =>
      obtain ⟨rfl, -⟩ := List.cons.inj hys
      rw [byteLen_append, byteLen_cons] at hafter
      omega

theorem splitAtByte_eq_none_iff {n : ℕ} {cs : List Char} (h : n ≤ byteLen cs) :
    splitAtByte n cs = none ↔ CutsAt n cs := by
  constructor
  · intro hnone
    induction cs generalizing n with
    | nil =>
      rw [byteLen_nil, Nat.le_zero] at h
      subst h
      cases hnone
    | cons c cs ih =>
      cases n with
      | zero => cases hnone
      | succ n =>
        rw [splitAtByte] at hnone
        split at hnone
        · rename_i hcut
          exact ⟨[], c, cs, rfl, by simp, by simpa using hcut⟩
        · rw [Option.map_eq_none_iff] at hnone
          rw [byteLen_cons] at h
          obtain ⟨before, d, after, rfl, hbefore, hafter⟩ := ih (by omega) hnone
          refine ⟨c :: before, d, after, rfl, ?_, ?_⟩
          all_goals
            rw [byteLen_cons]
            omega
  · intro hcuts
    by_contra hsome
    obtain ⟨⟨xs, ys⟩, hsplit⟩ := Option.ne_none_iff_exists'.mp hsome
    obtain ⟨rfl, rfl⟩ := splitAtByte_eq_some hsplit
    exact not_cutsAt_append xs ys hcuts

theorem findByte_append {c : Char} {before : List Char} (h : c ∉ before) (after : List Char) :
    findByte c (before ++ c :: after) = some (byteLen before) := by
  induction before with
  | nil =>
    rw [List.nil_append, findByte, if_pos rfl]
    rfl
  | cons d before ih =>
    obtain ⟨hd, hrest⟩ := List.ne_and_not_mem_of_not_mem_cons h
    rw [List.cons_append, findByte, if_neg (Ne.symm hd), ih hrest]
    rfl

theorem findByte_of_not_mem {c : Char} {cs : List Char} (h : c ∉ cs) : findByte c cs = none := by
  induction cs with
  | nil => rfl
  | cons d cs ih =>
    obtain ⟨hd, hrest⟩ := List.ne_and_not_mem_of_not_mem_cons h
    rw [findByte, if_neg (Ne.symm hd), ih hrest]
    rfl

end GscFq.Text
