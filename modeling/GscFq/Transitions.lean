import GscFq.Lists
import Mathlib.Data.Option.Basic
import Mathlib.Tactic

namespace GscFq.Transitions

variable {S E : Type}

def run (step : S → E → Option S) : S → List E → Option S
  | s, [] => some s
  | s, e :: es => (step s e).bind (fun s' => run step s' es)

/-- Event `e` happens in state `s` in the course of the run `es`. -/
def Occurs (step : S → E → Option S) (s₀ : S) (es : List E) (s : S) (e : E) : Prop :=
  ∃ before after, es = before ++ e :: after ∧ run step s₀ before = some s

def Along (step : S → E → Option S) (A : S → Prop) (s₀ : S) (es : List E) : Prop :=
  ∀ before after s, es = before ++ after → run step s₀ before = some s → A s

/-- The events of a run with the states they happen in. -/
def steps (step : S → E → Option S) : S → List E → List (S × E)
  | _, [] => []
  | s, e :: es => (s, e) :: (step s e).elim [] (fun s' => steps step s' es)

variable {step : S → E → Option S}

theorem run_append (s : S) (es fs : List E) :
    run step s (es ++ fs) = (run step s es).bind (fun t => run step t fs) := by
  induction es generalizing s with
  | nil => rfl
  | cons e es ih =>
    simp only [List.cons_append, run, Option.bind_assoc]
    congr 1
    funext t
    exact ih t

theorem run_rest {s₀ u s : S} {before after : List E} (h : run step s₀ (before ++ after) = some s)
    (hu : run step s₀ before = some u) : run step u after = some s := by
  rw [run_append, hu] at h
  exact h

theorem run_snoc {s t : S} {es : List E} {e : E} :
    run step s (es ++ [e]) = some t ↔ ∃ u, run step s es = some u ∧ step u e = some t := by
  rw [run_append, Option.bind_eq_some_iff]
  simp [run]

theorem run_middle {s₀ s : S} {before after : List E} {e : E} (h : run step s₀ (before ++ e :: after) = some s) :
    ∃ u t, run step s₀ before = some u ∧ step u e = some t ∧ run step t after = some s := by
  rw [run_append] at h
  obtain ⟨u, hu, hrest⟩ := Option.bind_eq_some_iff.mp h
  obtain ⟨t, ht, hafter⟩ := Option.bind_eq_some_iff.mp hrest
  exact ⟨u, t, hu, ht, hafter⟩

theorem occurs_snoc {s₀ s : S} {es : List E} {e f : E} (h : Occurs step s₀ (es ++ [e]) s f) :
    Occurs step s₀ es s f ∨ (run step s₀ es = some s ∧ f = e) := by
  obtain ⟨before, after, hes, hs⟩ := h
  rcases Lists.snoc_eq_middle hes with ⟨-, rfl, rfl⟩ | ⟨rest, -, hes'⟩
  · exact Or.inr ⟨hs, rfl⟩
  · exact Or.inl ⟨before, rest, hes', hs⟩

theorem not_occurs_nil {s₀ s : S} {e : E} : ¬ Occurs step s₀ [] s e := by
  rintro ⟨before, after, hes, -⟩
  simp at hes

theorem Occurs.mem_steps {s₀ s : S} {es : List E} {e : E} (h : Occurs step s₀ es s e) : (s, e) ∈ steps step s₀ es := by
  obtain ⟨before, after, rfl, hs⟩ := h
  induction before generalizing s₀ with
  | nil =>
    simp only [run, Option.some.injEq] at hs
    simp [steps, hs]
  | cons f before ih =>
    obtain ⟨t, ht, hr⟩ := Option.bind_eq_some_iff.mp hs
    rw [List.cons_append, steps, ht]
    exact List.mem_cons_of_mem _ (ih hr)

theorem Occurs.mem {s₀ s : S} {es : List E} {e : E} (h : Occurs step s₀ es s e) : e ∈ es := by
  obtain ⟨before, after, rfl, -⟩ := h
  simp

theorem Occurs.append {s₀ s : S} {es : List E} {f : E} (h : Occurs step s₀ es s f) (fs : List E) :
    Occurs step s₀ (es ++ fs) s f := by
  obtain ⟨before, after, rfl, hs⟩ := h
  exact ⟨before, after ++ fs, by simp, hs⟩

theorem occurs_last {s₀ s : S} {es : List E} (e : E) (h : run step s₀ es = some s) :
    Occurs step s₀ (es ++ [e]) s e := ⟨es, [], rfl, h⟩

theorem Occurs.enabled {s₀ s u : S} {es : List E} {e : E} (ho : Occurs step s₀ es u e) (h : run step s₀ es = some s) :
    ∃ t, step u e = some t := by
  obtain ⟨before, after, rfl, hu⟩ := ho
  obtain ⟨v, t, hv, ht, -⟩ := run_middle h
  obtain rfl : u = v := Option.some.inj (hu.symm.trans hv)
  exact ⟨t, ht⟩

theorem forall_occurs_iff_forall_mem {H : E → Prop} {s₀ s : S} {es : List E} (h : run step s₀ es = some s) :
    (∀ u e, Occurs step s₀ es u e → H e) ↔ ∀ e ∈ es, H e := by
  constructor
  · intro hall e he
    obtain ⟨before, after, rfl⟩ := List.append_of_mem he
    obtain ⟨u, t, hu, -⟩ := run_middle h
    exact hall u e ⟨before, after, rfl, hu⟩
  · intro hall u e ho
    exact hall e ho.mem

/-- The induction over a run, for what is said of its events together with the state they lead to. -/
theorem run_history {I : List E → S → Prop} {s₀ s : S} {es : List E} (h : run step s₀ es = some s) (h₀ : I [] s₀)
    (hstep : ∀ es u e t, run step s₀ es = some u → I es u → step u e = some t → I (es ++ [e]) t) : I es s := by
  induction es using List.reverseRecOn generalizing s with
  | nil =>
    simp only [run, Option.some.injEq] at h
    exact h ▸ h₀
  | append_singleton es e ih =>
    obtain ⟨u, hu, he⟩ := run_snoc.mp h
    exact hstep es u e s hu (ih hu) he

/-- What the first state has and every step keeps, given what is assumed of the states gone through. -/
theorem run_invariant_along {A I : S → Prop} {s₀ s : S} {es : List E} (h : run step s₀ es = some s)
    (ha : Along step A s₀ es) (h₀ : I s₀)
    (hstep : ∀ u e t, A u → A t → I u → step u e = some t → I t) : I s := by
  apply run_history (I := fun es s => Along step A s₀ es → I s) h (fun _ => h₀) _ ha
  intro es u e t hu ih he hpath
  have hau : A u := hpath es [e] u rfl hu
  have hat : A t := hpath (es ++ [e]) [] t (by simp) (run_snoc.mpr ⟨u, hu, he⟩)
  have hpre : Along step A s₀ es := fun before after v hes hv =>
    hpath before (after ++ [e]) v (by rw [hes, List.append_assoc]) hv
  exact hstep u e t hau hat (ih hpre) he

theorem steps_snoc {s₀ u : S} {es : List E} (e : E) (h : run step s₀ es = some u) :
    steps step s₀ (es ++ [e]) = steps step s₀ es ++ [(u, e)] := by
  induction es generalizing s₀ with
  | nil =>
    simp only [run, Option.some.injEq] at h
    subst h
    simp only [List.nil_append, steps]
    cases step s₀ e <;> rfl
  | cons f es ih =>
    obtain ⟨t, ht, hr⟩ := Option.bind_eq_some_iff.mp h
    simp only [List.cons_append, steps, ht, Option.elim_some, ih hr]

theorem run_invariant {I : S → Prop} {s₀ s : S} {es : List E} (h : run step s₀ es = some s) (h₀ : I s₀)
    (hstep : ∀ u e t, I u → step u e = some t → I t) : I s :=
  @run_invariant_along S E step (fun _ => True) I s₀ s es h (fun _ _ _ _ _ => trivial) h₀
    (fun u e t _ _ hu he => hstep u e t hu he)

theorem run_invariant_occurs {I : S → Prop} {C : S → E → Prop} {s₀ s : S} {es : List E}
    (h : run step s₀ es = some s) (hC : ∀ u e, Occurs step s₀ es u e → C u e) (h₀ : I s₀)
    (hstep : ∀ u e t, C u e → I u → step u e = some t → I t) : I s := by
  apply run_history (I := fun es s => (∀ u e, Occurs step s₀ es u e → C u e) → I s) h (fun _ => h₀) _ hC
  intro es u e t hu ih he hall
  have hpre : ∀ v f, Occurs step s₀ es v f → C v f := fun v f hf => hall v f (hf.append [e])
  exact hstep u e t (hall u e (occurs_last e hu)) (ih hpre) he

theorem run_invariant_of {I : S → Prop} {H : E → Prop} {s₀ s : S} {es : List E} (h : run step s₀ es = some s)
    (hH : ∀ e ∈ es, H e) (h₀ : I s₀) (hstep : ∀ u e t, H e → I u → step u e = some t → I t) : I s := by
  apply run_invariant_occurs (C := fun _ e => H e) h _ h₀ hstep
  intro u e ho
  exact hH e ho.mem

/-- A property of the state that each step keeps exactly when it meets a condition. -/
theorem run_iff_occurs {I A : S → Prop} {C : S → E → Prop} {s₀ s : S} {es : List E} (h : run step s₀ es = some s)
    (h₀ : I s₀) (hA : A s₀) (hI : ∀ u e t, I u → step u e = some t → I t)
    (hstep : ∀ u e t, I u → step u e = some t → (A t ↔ A u ∧ C u e)) :
    A s ↔ ∀ u e, Occurs step s₀ es u e → C u e := by
  constructor
  · intro hs
    induction es using List.reverseRecOn generalizing s with
    | nil => exact fun u e hocc => absurd hocc not_occurs_nil
    | append_singleton es e ih =>
      obtain ⟨v, hv, he⟩ := run_snoc.mp h
      obtain ⟨hAv, hC⟩ := (hstep v e s (run_invariant hv h₀ hI) he).mp hs
      intro u f hf
      rcases occurs_snoc hf with hf | ⟨hu, rfl⟩
      · exact ih hv hAv u f hf
      · cases hu.symm.trans hv
        exact hC
  · intro hC
    have hboth : I s ∧ A s := by
      apply run_invariant_occurs (C := C) h hC ⟨h₀, hA⟩
      intro u e t hCu hu he
      exact ⟨hI u e t hu.1 he, (hstep u e t hu.1 he).mpr ⟨hu.2, hCu⟩⟩
    exact hboth.2

theorem along_iff_occurs {A : S → Prop} {s₀ : S} {es : List E} :
    Along step A s₀ es ↔ A s₀ ∧ ∀ u e t, Occurs step s₀ es u e → step u e = some t → A t := by
  constructor
  · intro ha
    refine ⟨ha [] es s₀ rfl rfl, ?_⟩
    rintro u e t ⟨before, after, rfl, hu⟩ he
    exact ha (before ++ [e]) after t (by simp) (run_snoc.mpr ⟨u, hu, he⟩)
  · rintro ⟨h₀, hstep⟩ before after s rfl hs
    rcases List.eq_nil_or_concat before with rfl | ⟨before, e, rfl⟩
    · simp only [run, Option.some.injEq] at hs
      exact hs ▸ h₀
    · rw [List.concat_eq_append] at hs hstep
      obtain ⟨u, hu, he⟩ := run_snoc.mp hs
      exact hstep u e s ⟨before, after, by simp, hu⟩ he

/-- Two conditions on the steps, of which the second keeps an invariant under which they agree. -/
theorem forall_occurs_iff {I : S → Prop} {P C : S → E → Prop} {s₀ s : S} {es : List E} (h : run step s₀ es = some s)
    (h₀ : I s₀) (hI : ∀ u e t, Occurs step s₀ es u e → I u → C u e → step u e = some t → I t)
    (hiff : ∀ u e t, Occurs step s₀ es u e → I u → step u e = some t → (P u e ↔ C u e)) :
    (∀ u e, Occurs step s₀ es u e → P u e) ↔ ∀ u e, Occurs step s₀ es u e → C u e := by
  constructor
  · intro hP
    induction es using List.reverseRecOn generalizing s with
    | nil => exact fun u e hocc => absurd hocc not_occurs_nil
    | append_singleton es e ih =>
      obtain ⟨v, hv, he⟩ := run_snoc.mp h
      have hpre : ∀ u f, Occurs step s₀ es u f → C u f :=
        ih hv (fun u f t hf => hI u f t (hf.append [e])) (fun u f t hf => hiff u f t (hf.append [e]))
          (fun u f hf => hP u f (hf.append [e]))
      have hlast := occurs_last e hv
      have hv' : I v := by
        apply run_invariant_occurs (C := fun u f => Occurs step s₀ es u f ∧ C u f) hv (fun u f hf => ⟨hf, hpre u f hf⟩) h₀
        rintro u f t ⟨hf, hC⟩ hu hft
        exact hI u f t (hf.append [e]) hu hC hft
      intro u f hf
      rcases occurs_snoc hf with hf | ⟨hu, rfl⟩
      · exact hpre u f hf
      · cases hu.symm.trans hv
        exact (hiff v f s hlast hv' he).mp (hP v f hlast)
  · rintro hC u e hocc
    obtain ⟨t, ht⟩ := hocc.enabled h
    have hu : I u := by
      obtain ⟨before, after, rfl, hu⟩ := hocc
      apply run_invariant_occurs (C := fun v f => Occurs step s₀ (before ++ e :: after) v f ∧ C v f) hu _ h₀
      · rintro v f w ⟨hf, hC⟩ hv hfw
        exact hI v f w hf hv hC hfw
      · intro v f hf
        exact ⟨hf.append _, hC v f (hf.append _)⟩
    exact (hiff u e t hocc hu ht).mpr (hC u e hocc)

theorem run_measure {I : S → Prop} {H : E → Prop} (μ : S → ℕ) {s₀ s : S} {es : List E}
    (h : run step s₀ es = some s) (hH : ∀ e ∈ es, H e) (h₀ : I s₀)
    (hstep : ∀ u e t, H e → I u → step u e = some t → I t ∧ μ t < μ u) : I s ∧ es.length + μ s ≤ μ s₀ := by
  induction es using List.reverseRecOn generalizing s with
  | nil =>
    simp only [run, Option.some.injEq] at h
    subst h
    exact ⟨h₀, by simp⟩
  | append_singleton es e ih =>
    obtain ⟨u, hu, he⟩ := run_snoc.mp h
    obtain ⟨hI, hlen⟩ := ih hu (fun f hf => hH f (List.mem_append_left _ hf))
    obtain ⟨hI', hlt⟩ := hstep u e s (hH e (by simp)) hI he
    refine ⟨hI', ?_⟩
    rw [List.length_append, List.length_singleton]
    omega

theorem exists_run_of_measure {I : S → Prop} (μ : S → ℕ) {s : S} (h₀ : I s)
    (hstep : ∀ u, I u → μ u ≠ 0 → ∃ e t, step u e = some t ∧ I t ∧ μ t < μ u) :
    ∃ es t, run step s es = some t ∧ I t ∧ μ t = 0 := by
  induction hn : μ s using Nat.strong_induction_on generalizing s with
  | _ n ih =>
    by_cases hz : μ s = 0
    · exact ⟨[], s, rfl, h₀, hz⟩
    · obtain ⟨e, u, he, hu, hlt⟩ := hstep s h₀ hz
      obtain ⟨es, t, hr, ht, hzero⟩ := ih (μ u) (hn ▸ hlt) hu rfl
      exact ⟨e :: es, t, by simp [run, he, hr], ht, hzero⟩

end GscFq.Transitions
