import Mathlib.Data.List.Basic
import Mathlib.Tactic

/-!
A buffer whose contents are taken out in batches. A batch is then either delivered or dropped, and batches
taken one after the other may come to their end in any order.
-/

namespace GscFq

structure Handover (α : Type) where
  accepted : List α
  delivered : List α
  batches : List (List α)
  pending : List α

namespace Handover

variable {α : Type} {r : α → α → Prop} {l : Handover α}

def empty : Handover α := ⟨[], [], [], []⟩

def accept (l : Handover α) (a : α) : Handover α :=
  { l with accepted := l.accepted ++ [a], pending := l.pending ++ [a] }

def take (l : Handover α) : Handover α := { l with batches := l.batches ++ [l.pending], pending := [] }

def deliver (l : Handover α) (d : List α) (rest : List (List α)) : Handover α :=
  { l with delivered := l.delivered ++ d, batches := rest }

def drop (l : Handover α) (rest : List (List α)) : Handover α := { l with batches := rest }

/-- Nothing is lost or out of order: what was delivered, what is under way and what is pending, one after the other. -/
def Complete (l : Handover α) : Prop := l.delivered ++ (l.batches.flatten ++ l.pending) = l.accepted

structure Ordered (r : α → α → Prop) (l : Handover α) : Prop where
  accepted : l.accepted.Pairwise r
  sublist : (l.batches.flatten ++ l.pending).Sublist l.accepted
  length : l.delivered.length + (l.batches.flatten ++ l.pending).length ≤ l.accepted.length

theorem ordered_empty : Ordered r (empty : Handover α) := ⟨.nil, List.nil_sublist _, le_rfl⟩

theorem Ordered.accept (h : l.Ordered r) {a : α} (ha : ∀ x ∈ l.accepted, r x a) : (l.accept a).Ordered r := by
  refine ⟨?_, ?_, ?_⟩
  · change (l.accepted ++ [a]).Pairwise r
    rw [List.pairwise_append]
    exact ⟨h.accepted, List.pairwise_singleton r a, by simpa using ha⟩
  · change (l.batches.flatten ++ (l.pending ++ [a])).Sublist (l.accepted ++ [a])
    rw [← List.append_assoc]
    exact h.sublist.append (List.Sublist.refl [a])
  · have hlen := h.length
    simp only [Handover.accept, List.length_append, List.length_singleton] at hlen ⊢
    omega

theorem accept_complete_iff (a : α) : (l.accept a).Complete ↔ l.Complete := by
  unfold Complete Handover.accept
  rw [← List.append_assoc, ← List.append_assoc, List.append_left_inj, List.append_assoc]

theorem take_flatten (l : Handover α) : l.take.batches.flatten ++ l.take.pending = l.batches.flatten ++ l.pending := by
  simp [Handover.take]

theorem Ordered.take (h : l.Ordered r) : l.take.Ordered r := by
  refine ⟨h.accepted, ?_, ?_⟩
  · rw [take_flatten]
    exact h.sublist
  · rw [take_flatten]
    exact h.length

theorem take_complete_iff : l.take.Complete ↔ l.Complete := by
  unfold Complete
  rw [take_flatten]
  rfl

variable {before after : List (List α)} {d : List α}

theorem flatten_middle (hl : l.batches = before ++ d :: after) :
    l.batches.flatten ++ l.pending = before.flatten ++ (d ++ (after.flatten ++ l.pending)) := by
  simp [hl]

theorem rest_sublist (hl : l.batches = before ++ d :: after) :
    ((before ++ after).flatten ++ l.pending).Sublist (l.batches.flatten ++ l.pending) := by
  rw [flatten_middle hl, List.flatten_append, List.append_assoc]
  exact (List.Sublist.refl _).append (List.sublist_append_right _ _)

theorem Ordered.drop (h : l.Ordered r) (hl : l.batches = before ++ d :: after) : (l.drop (before ++ after)).Ordered r := by
  have hrest := rest_sublist hl
  refine ⟨h.accepted, hrest.trans h.sublist, ?_⟩
  exact (Nat.add_le_add_left hrest.length_le _).trans h.length

theorem Ordered.deliver (h : l.Ordered r) (hl : l.batches = before ++ d :: after) :
    (l.deliver d (before ++ after)).Ordered r := by
  refine ⟨h.accepted, (rest_sublist hl).trans h.sublist, ?_⟩
  have hlen := h.length
  rw [flatten_middle hl] at hlen
  simp only [Handover.deliver, List.flatten_append, List.length_append] at hlen ⊢
  omega

theorem drop_complete_iff (h : l.Ordered r) (hl : l.batches = before ++ d :: after) :
    (l.drop (before ++ after)).Complete ↔ l.Complete ∧ d = [] := by
  constructor
  · intro hc
    have hlen := h.length
    have hc' := congrArg List.length hc
    rw [flatten_middle hl] at hlen
    simp only [Handover.drop, List.flatten_append, List.length_append] at hlen hc'
    have hd : d = [] := List.eq_nil_of_length_eq_zero (by omega)
    refine ⟨?_, hd⟩
    unfold Complete at hc ⊢
    rw [flatten_middle hl, hd]
    simpa [Handover.drop] using hc
  · rintro ⟨hc, rfl⟩
    unfold Complete at hc ⊢
    rw [flatten_middle hl] at hc
    simpa [Handover.drop] using hc

theorem deliver_complete_iff (hasymm : ∀ x y, r x y → ¬ r y x) (h : l.Ordered r)
    (hl : l.batches = before ++ d :: after) :
    (l.deliver d (before ++ after)).Complete ↔ l.Complete ∧ (d = [] ∨ before.flatten = []) := by
  have hsame (hor : d = [] ∨ before.flatten = []) : (l.deliver d (before ++ after)).Complete ↔ l.Complete := by
    unfold Complete
    rw [flatten_middle hl]
    rcases hor with rfl | hbefore
    · simp [Handover.deliver]
    · simp [Handover.deliver, hbefore]
  constructor
  · intro hc
    by_cases hor : d = [] ∨ before.flatten = []
    · exact ⟨(hsame hor).mp hc, hor⟩
    · obtain ⟨hd, hbefore⟩ := not_or.mp hor
      obtain ⟨x, hx⟩ := List.exists_mem_of_ne_nil _ hd
      obtain ⟨y, hy⟩ := List.exists_mem_of_ne_nil _ hbefore
      -- in the buffer's order `y` comes before `x`, and among the delivered it would come after it
      have hbuffer : r y x := by
        have hpair := h.accepted.sublist h.sublist
        rw [flatten_middle hl, List.pairwise_append] at hpair
        exact hpair.2.2 y hy x (List.mem_append_left _ hx)
      have harrived : r x y := by
        have hpair := h.accepted
        have harrived : (l.delivered ++ d) ++ ((before ++ after).flatten ++ l.pending) = l.accepted := hc
        rw [← harrived, List.append_assoc, List.pairwise_append] at hpair
        have hpair := hpair.2.1
        apply (List.pairwise_append.mp hpair).2.2 x hx y
        simp [List.mem_flatten.mp hy]
      exact absurd hbuffer (hasymm x y harrived)
  · rintro ⟨hc, hor⟩
    exact (hsame hor).mpr hc

end Handover

end GscFq
