import Mathlib.Algebra.BigOperators.Group.List.Basic
import Mathlib.Order.Interval.Finset.Nat
import Mathlib.Tactic

/-!
A choice by a ticket: each weight owns as many tickets as it says, one after the other.
-/

namespace GscFq.WeightedChoice

def choose : List ℕ → ℕ → Option ℕ
  | [], _ => none
  | w :: ws, ticket => if ticket < w then some 0 else (choose ws (ticket - w)).map (· + 1)

theorem choose_eq_some_iff {ws : List ℕ} {ticket i : ℕ} :
    choose ws ticket = some i ↔ (ws.take i).sum ≤ ticket ∧ ticket < (ws.take (i + 1)).sum := by
  induction ws generalizing ticket i with
  | nil => simp [choose]
  | cons w ws ih =>
    rw [choose]
    split
    · rename_i hlt
      cases i with
      | zero => simp [hlt]
      | succ i =>
        simp only [Option.some.injEq, List.take_succ_cons, List.sum_cons]
        omega
    · rename_i hge
      cases i with
      | zero => simp [hge]
      | succ i =>
        simp only [Option.map_eq_some_iff, Nat.add_right_cancel_iff, exists_eq_right, ih, List.take_succ_cons, List.sum_cons]
        omega

theorem choose_isSome_iff {ws : List ℕ} {ticket : ℕ} : (choose ws ticket).isSome = true ↔ ticket < ws.sum := by
  induction ws generalizing ticket with
  | nil => simp [choose]
  | cons w ws ih =>
    rw [choose, List.sum_cons]
    split
    · rename_i hlt
      simp only [Option.isSome_some, true_iff]
      omega
    · rename_i hge
      rw [Option.isSome_map, ih]
      omega

theorem take_succ_sum {ws : List ℕ} {i w : ℕ} (h : ws[i]? = some w) : (ws.take (i + 1)).sum = (ws.take i).sum + w := by
  rw [List.take_add_one, h, List.sum_append, Option.toList_some, List.sum_singleton]

theorem choose_weight {ws : List ℕ} {ticket i : ℕ} (h : choose ws ticket = some i) :
    ∃ w, ws[i]? = some w ∧ 0 < w := by
  obtain ⟨hle, hlt⟩ := choose_eq_some_iff.mp h
  cases hw : ws[i]? with
  | none =>
    rw [List.take_add_one, hw, Option.toList_none, List.append_nil] at hlt
    omega
  | some w =>
    rw [take_succ_sum hw] at hlt
    exact ⟨w, rfl, by omega⟩

/-- Of all tickets, a weight is chosen by exactly as many as it says. -/
theorem card_choose {ws : List ℕ} {i w : ℕ} (h : ws[i]? = some w) :
    ((Finset.range ws.sum).filter (fun ticket => choose ws ticket = some i)).card = w := by
  have htake := take_succ_sum h
  have htotal : (ws.take (i + 1)).sum ≤ ws.sum := by
    have hsum := congrArg List.sum (List.take_append_drop (i + 1) ws)
    rw [List.sum_append] at hsum
    omega
  have hinterval : (Finset.range ws.sum).filter (fun ticket => choose ws ticket = some i) =
      Finset.Ico (ws.take i).sum (ws.take (i + 1)).sum := by
    ext ticket
    simp only [Finset.mem_filter, Finset.mem_range, Finset.mem_Ico, choose_eq_some_iff]
    omega
  rw [hinterval, Nat.card_Ico, htake, Nat.add_sub_cancel_left]

end GscFq.WeightedChoice
