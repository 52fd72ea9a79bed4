import Mathlib.Data.List.Basic
import Mathlib.Tactic

/-!
Texts cut into lines after each terminator.
-/

namespace GscFq.TerminatedLines

variable {α β : Type} {c : α}

/-- The terminator stands at the end of each line and nowhere else; the last line may lack it but is not empty. -/
inductive Lines (c : α) : List (List α) → Prop
  | nil : Lines c []
  | last {body : List α} (hne : body ≠ []) (hc : c ∉ body) : Lines c [body]
  | cons {body : List α} {rest : List (List α)} (hc : c ∉ body) (h : Lines c rest) : Lines c ((body ++ [c]) :: rest)

/-- Two lines that both end with the terminator or both lack it. -/
inductive SameEnding (c : α) : List α → List α → Prop
  | ended {body body' : List α} (hc : c ∉ body') : SameEnding c (body ++ [c]) (body' ++ [c])
  | unended {body body' : List α} (hc : c ∉ body) (hc' : c ∉ body') (hne : body ≠ [] → body' ≠ []) :
      SameEnding c body body'

theorem SameEnding.of_ended {body line : List α} (h : SameEnding c (body ++ [c]) line) :
    ∃ body', line = body' ++ [c] ∧ c ∉ body' := by
  generalize hbody : body ++ [c] = start at h
  cases h with
  | ended hc => exact ⟨_, rfl, hc⟩
  | unended hno => simp [← hbody] at hno

theorem SameEnding.of_unended {body line : List α} (hc : c ∉ body) (h : SameEnding c body line) :
    c ∉ line ∧ (body ≠ [] → line ≠ []) := by
  cases h with
  | ended => simp at hc
  | unended _ hc' hne => exact ⟨hc', hne⟩

theorem Lines.of_sameEnding {ls ls' : List (List α)} (h : Lines c ls) (hs : List.Forall₂ (SameEnding c) ls ls') :
    Lines c ls' := by
  induction h generalizing ls' with
  | nil =>
    cases hs
    exact .nil
  | last hne hc =>
    cases hs with
    | cons hline hrest =>
      cases hrest
      obtain ⟨hc', hne'⟩ := hline.of_unended hc
      exact .last (hne' hne) hc'
  | cons _ _ ih =>
    cases hs with
    | cons hline hrest =>
      obtain ⟨body', rfl, hc'⟩ := hline.of_ended
      exact .cons hc' (ih hrest)

theorem getLast?_ended (body : List α) (rest : List α) :
    (body ++ [c] ++ rest).getLast? = some c ↔ rest = [] ∨ rest.getLast? = some c := by
  rcases List.eq_nil_or_concat rest with rfl | ⟨front, last, rfl⟩
  · simp
  · simp only [List.concat_eq_append, ← List.append_assoc, List.getLast?_concat]
    simp

theorem getLast?_unended {body : List α} (hc : c ∉ body) : body.getLast? ≠ some c :=
  fun hlast => hc (List.mem_of_getLast? hlast)

theorem Lines.getLast_iff {ls ls' : List (List α)} (h : Lines c ls) (hs : List.Forall₂ (SameEnding c) ls ls') :
    (ls.flatten = [] ↔ ls'.flatten = []) ∧ (ls.flatten.getLast? = some c ↔ ls'.flatten.getLast? = some c) := by
  induction h generalizing ls' with
  | nil =>
    cases hs
    simp
  | last hne hc =>
    cases hs with
    | cons hline hrest =>
      cases hrest
      obtain ⟨hc', hne'⟩ := hline.of_unended hc
      simp [hne, hne' hne, getLast?_unended hc, getLast?_unended hc']
  | cons _ _ ih =>
    cases hs with
    | cons hline hrest =>
      obtain ⟨body', rfl, -⟩ := hline.of_ended
      obtain ⟨hempty, hlast⟩ := ih hrest
      rw [List.flatten_cons, List.flatten_cons, getLast?_ended, getLast?_ended, hempty, hlast]
      simp

theorem Lines.map {ls : List (List α)} {d : β} {f : List α → List β} (h : Lines c ls)
    (hf : ∀ body, f (body ++ [c]) = f body ++ [d]) (hd : ∀ body, c ∉ body → d ∉ f body)
    (hne : ∀ body, body ≠ [] → f body ≠ []) : Lines d (ls.map f) := by
  induction h with
  | nil => exact .nil
  | last hbody hc => exact .last (hne _ hbody) (hd _ hc)
  | cons hc _ ih =>
    rw [List.map_cons, hf]
    exact .cons (hd _ hc) ih

/-- The terminators before a place in the text are as many as the lines before that of the place. -/
theorem Lines.locate [DecidableEq α] {ls : List (List α)} (h : Lines c ls) {n : ℕ} (hn : n < ls.flatten.length) :
    ∃ before line after, ls = before ++ line :: after ∧ before.flatten.length ≤ n ∧
      n < before.flatten.length + line.length ∧ (ls.flatten.take n).count c = before.length := by
  induction h generalizing n with
  | nil => simp at hn
  | @last body _ hc =>
    refine ⟨[], body, [], rfl, Nat.zero_le _, by simpa using hn, ?_⟩
    exact List.count_eq_zero.mpr (fun hmem => hc (by simpa using List.mem_of_mem_take hmem))
  | @cons body rest hc _ ih =>
    by_cases hhere : n < body.length + 1
    · refine ⟨[], body ++ [c], rest, rfl, Nat.zero_le _, by simpa using hhere, ?_⟩
      rw [List.flatten_cons, List.append_assoc, List.take_append_of_le_length (by omega)]
      exact List.count_eq_zero.mpr (fun hmem => hc (List.mem_of_mem_take hmem))
    · obtain ⟨k, rfl⟩ := Nat.exists_eq_add_of_le (Nat.le_of_not_lt hhere)
      have hlen : (body ++ [c]).length = body.length + 1 := by simp
      have hk : k < rest.flatten.length := by
        rw [List.flatten_cons, List.length_append, hlen] at hn
        omega
      obtain ⟨before, line, after, rfl, hle, hlt, hcount⟩ := ih hk
      refine ⟨(body ++ [c]) :: before, line, after, rfl, ?_, ?_, ?_⟩
      · rw [List.flatten_cons, List.length_append, hlen]
        omega
      · rw [List.flatten_cons, List.length_append, hlen]
        omega
      · rw [List.flatten_cons, ← hlen, List.take_length_add_append, List.count_append, hcount, List.count_append,
          List.count_eq_zero.mpr hc, List.count_singleton_self, List.length_cons]
        omega

end GscFq.TerminatedLines
