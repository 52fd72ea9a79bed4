import Mathlib.Data.List.Basic
import Mathlib.Data.List.DropRight
import Mathlib.Tactic

namespace GscFq.Lists

theorem mapM_forall₂ {α β ε : Type} {f : α → Except ε β} {l : List α} {l' : List β} (h : l.mapM f = .ok l') :
    List.Forall₂ (fun a b => f a = .ok b) l l' := by
  induction l generalizing l' with
  | nil =>
    obtain rfl : [] = l' := Except.ok.inj h
    exact .nil
  | cons x l ih =>
    rw [List.mapM_cons] at h
    cases hx : f x with
    | error e =>
      rw [hx] at h
      cases h
    | ok y =>
      cases hl : l.mapM f with
      | error e =>
        rw [hx, hl] at h
        cases h
      | ok ys =>
        rw [hx, hl] at h
        obtain rfl : y :: ys = l' := Except.ok.inj h
        exact .cons hx (ih hl)

theorem mapM_of_forall₂ {α β ε : Type} {f : α → Except ε β} {l : List α} {l' : List β}
    (h : List.Forall₂ (fun a b => f a = .ok b) l l') : l.mapM f = .ok l' := by
  induction h with
  | nil => rfl
  | cons hx _ ih =>
    rw [List.mapM_cons, hx, ih]
    rfl

theorem exists_forall₂ {α β : Type} {R : α → β → Prop} {l : List α} (h : ∀ a ∈ l, ∃ b, R a b) :
    ∃ l', List.Forall₂ R l l' := by
  induction l with
  | nil => exact ⟨[], .nil⟩
  | cons a l ih =>
    obtain ⟨ha, hl⟩ := List.forall_mem_cons.mp h
    obtain ⟨b, hb⟩ := ha
    obtain ⟨l', hl'⟩ := ih hl
    exact ⟨b :: l', .cons hb hl'⟩

theorem pairwise_of_forall₂ {α β : Type} {R : α → β → Prop} {P : α → α → Prop} {Q : β → β → Prop} {l : List α}
    {l' : List β} (h : List.Forall₂ R l l') (hl : l.Pairwise P)
    (hPQ : ∀ a b a' b', R a b → R a' b' → P a a' → Q b b') : l'.Pairwise Q := by
  induction h with
  | nil => exact .nil
  | cons hR hrest ih =>
    obtain ⟨hfirst, hpair⟩ := List.pairwise_cons.mp hl
    refine List.pairwise_cons.mpr ⟨?_, ih hpair⟩
    clear ih hl hpair
    induction hrest with
    | nil => simp
    | cons hR' _ ih =>
      obtain ⟨hP, hfirst⟩ := List.forall_mem_cons.mp hfirst
      exact List.forall_mem_cons.mpr ⟨hPQ _ _ _ _ hR hR' hP, ih hfirst⟩

theorem mapM_isSome_iff {α β : Type} (f : α → Option β) (l : List α) :
    (l.mapM f).isSome = true ↔ ∀ x ∈ l, (f x).isSome = true := by
  induction l with
  | nil => simp
  | cons x l ih =>
    rw [List.forall_mem_cons, ← ih, List.mapM_cons]
    cases f x with
    | none => simp
    | some y => cases l.mapM f <;> simp

theorem mapM_eq_some_iff {α β : Type} {f : α → Option β} {l : List α} {l' : List β} :
    l.mapM f = some l' ↔ List.Forall₂ (fun a b => f a = some b) l l' := by
  induction l generalizing l' with
  | nil =>
    cases l' with
    | nil => simp
    | cons y l' => simp
  | cons x l ih =>
    rw [List.mapM_cons]
    cases l' with
    | nil => cases f x <;> cases l.mapM f <;> simp
    | cons y l' =>
      rw [List.forall₂_cons, ← ih]
      cases f x <;> cases l.mapM f <;> simp

theorem first_split_inj {α : Type} [DecidableEq α] {a : α} {k l v w : List α} (h : k ++ a :: v = l ++ a :: w)
    (hk : a ∉ k) (hl : a ∉ l) : k = l ∧ v = w := by
  have htake : ∀ xs ys : List α, a ∉ xs → (xs ++ a :: ys).takeWhile (· ≠ a) = xs := by
    intro xs ys hxs
    have hne : ∀ x ∈ xs, decide (x ≠ a) = true := fun x hx => decide_eq_true (fun heq => hxs (heq ▸ hx))
    rw [List.takeWhile_append_of_pos hne]
    simp
  have hkl : k = l := by rw [← htake k v hk, h, htake l w hl]
  subst hkl
  exact ⟨rfl, (List.cons.inj (List.append_cancel_left h)).2⟩

theorem getElem?_set_some {α : Type} {l : List α} {i j : ℕ} {a b : α} (h : (l.set i a)[j]? = some b) :
    (i = j ∧ b = a) ∨ (i ≠ j ∧ l[j]? = some b) := by
  by_cases hij : i = j
  · subst hij
    rw [List.getElem?_set_self'] at h
    obtain ⟨_, _, hab⟩ := Option.map_eq_some_iff.mp h
    exact Or.inl ⟨rfl, hab.symm⟩
  · rw [List.getElem?_set_ne hij] at h
    exact Or.inr ⟨hij, h⟩

theorem getElem?_snoc_some {α : Type} {l : List α} {j : ℕ} {a b : α} (h : (l ++ [a])[j]? = some b) :
    l[j]? = some b ∨ (j = l.length ∧ b = a) := by
  rcases Nat.lt_trichotomy j l.length with hlt | rfl | hgt
  · rw [List.getElem?_append_left hlt] at h
    exact Or.inl h
  · rw [List.getElem?_concat_length] at h
    exact Or.inr ⟨rfl, (Option.some.inj h).symm⟩
  · rw [List.getElem?_eq_none (by rw [List.length_append, List.length_singleton]; omega)] at h
    cases h

theorem snoc_eq_middle {α : Type} {l before after : List α} {a b : α} (h : l ++ [a] = before ++ b :: after) :
    (after = [] ∧ l = before ∧ a = b) ∨ ∃ rest, after = rest ++ [a] ∧ l = before ++ b :: rest := by
  rcases List.eq_nil_or_concat after with rfl | ⟨rest, c, rfl⟩
  · obtain ⟨hl, hab⟩ := List.append_inj' h rfl
    exact Or.inl ⟨rfl, hl, List.singleton_inj.mp hab⟩
  · rw [List.concat_eq_append, ← List.cons_append, ← List.append_assoc] at h
    obtain ⟨hl, hac⟩ := List.append_inj' h rfl
    rw [List.concat_eq_append, ← hac]
    exact Or.inr ⟨rest, rfl, hl⟩

theorem eq_take_cons_drop {α : Type} {l : List α} {i : ℕ} {a : α} (h : l[i]? = some a) :
    l = l.take i ++ a :: l.drop (i + 1) := by
  obtain ⟨hi, rfl⟩ := List.getElem?_eq_some_iff.mp h
  rw [← List.drop_eq_getElem_cons hi, List.take_append_drop]

theorem countP_set_get {α : Type} (p : α → Bool) {l : List α} {i : ℕ} {old : α} (new : α) (h : l[i]? = some old) :
    (l.set i new).countP p + (if p old then 1 else 0) = l.countP p + (if p new then 1 else 0) := by
  obtain ⟨hi, rfl⟩ := List.getElem?_eq_some_iff.mp h
  rw [List.countP_set hi]
  by_cases hp : p l[i] = true
  · have hpos : 0 < l.countP p := List.countP_pos_iff.mpr ⟨_, List.getElem_mem hi, hp⟩
    simp only [hp, if_true]
    omega
  · simp [hp]

theorem sum_set_get {α : Type} (f : α → ℕ) {l : List α} {i : ℕ} {old : α} (new : α) (h : l[i]? = some old) :
    ((l.set i new).map f).sum + f old = (l.map f).sum + f new := by
  obtain ⟨hi, -⟩ := List.getElem?_eq_some_iff.mp h
  have hl : (l.map f).sum = ((l.take i).map f).sum + (f old + ((l.drop (i + 1)).map f).sum) := by
    conv_lhs => rw [eq_take_cons_drop h]
    rw [List.map_append, List.sum_append, List.map_cons, List.sum_cons]
  rw [List.set_eq_take_append_cons_drop, if_pos hi, hl, List.map_append, List.sum_append, List.map_cons,
    List.sum_cons]
  omega

theorem map_set_same {α β : Type} (f : α → β) {l : List α} {i : ℕ} {old new : α} (h : l[i]? = some old)
    (hf : f new = f old) : (l.set i new).map f = l.map f := by
  obtain ⟨hi, rfl⟩ := List.getElem?_eq_some_iff.mp h
  rw [List.map_set, hf, ← List.map_set, List.set_getElem_self]

/-- A list that loses its first entry whenever one more would make it too long has the last entries of all. -/
theorem rtake_push {α : Type} (l : List α) (a : α) (n : ℕ) :
    (if n < (l.rtake n ++ [a]).length then (l.rtake n ++ [a]).tail else l.rtake n ++ [a]) = (l ++ [a]).rtake n := by
  simp only [List.rtake, List.length_append, List.length_drop, List.length_singleton]
  split
  · rename_i hlong
    have hnext : l.length + 1 - n = l.length - n + 1 := by omega
    rw [← List.drop_append_of_le_length (Nat.sub_le _ _), List.tail_drop, hnext]
  · rename_i hshort
    have hnow : l.length - n = 0 := by omega
    have hnext : l.length + 1 - n = 0 := by omega
    rw [hnow, hnext, List.drop_zero, List.drop_zero]

theorem countP_erase_add {α : Type} [DecidableEq α] (p : α → Bool) {l : List α} {a : α} (h : a ∈ l) :
    (l.erase a).countP p + (if p a then 1 else 0) = l.countP p := by
  rw [(List.perm_cons_erase h).countP_eq, List.countP_cons]

theorem forall_set_iff {α : Type} {P : α → Prop} {q : Prop} {l : List α} {i : ℕ} {old new : α} (h : l[i]? = some old)
    (hnew : P new ↔ P old ∧ q) : (∀ a ∈ l.set i new, P a) ↔ (∀ a ∈ l, P a) ∧ q := by
  obtain ⟨hi, -⟩ := List.getElem?_eq_some_iff.mp h
  constructor
  · intro hall
    obtain ⟨hold, hq⟩ := hnew.mp (hall new (List.mem_set hi new))
    refine ⟨?_, hq⟩
    intro a ha
    obtain ⟨k, hk⟩ := List.mem_iff_getElem?.mp ha
    by_cases hik : i = k
    · subst hik
      exact Option.some.inj (h.symm.trans hk) ▸ hold
    · exact hall a (List.mem_iff_getElem?.mpr ⟨k, by rw [List.getElem?_set_ne hik, hk]⟩)
  · rintro ⟨hall, hq⟩ a ha
    rcases List.mem_or_eq_of_mem_set ha with ha | rfl
    · exact hall a ha
    · exact hnew.mpr ⟨hall old (List.mem_of_getElem? h), hq⟩

theorem foldl_remove {σ κ β : Type} [DecidableEq κ] {remove : σ → κ → σ} (look : σ → κ → Option β)
    (hself : ∀ s a, look (remove s a) a = none) (hne : ∀ s a b, b ≠ a → look (remove s a) b = look s b)
    (as : List κ) (s : σ) (b : κ) :
    look (as.foldl remove s) b = if b ∈ as then none else look s b := by
  induction as generalizing s with
  | nil => simp
  | cons a as ih =>
    rw [List.foldl_cons, ih]
    by_cases hmem : b ∈ as
    · simp [hmem]
    · by_cases hb : b = a
      · subst hb
        simp [hmem, hself]
      · simp [hmem, hb, hne s a b hb]

end GscFq.Lists
