import Mathlib.Data.List.Basic
import Mathlib.Tactic

/-!
The connection counts and the average duration of `MonitoringSystem`. The numbers do not overflow.
-/

namespace GscFq.MonitoringSystem

structure ConnectionMetrics where
  totalConnections : ℕ
  activeConnections : ℕ
  avgConnectionDurationMs : ℕ
  deriving DecidableEq, Repr

def ConnectionMetrics.default : ConnectionMetrics := ⟨0, 0, 0⟩

def recordConnectionEstablished (m : ConnectionMetrics) : ConnectionMetrics :=
  { m with totalConnections := m.totalConnections + 1, activeConnections := m.activeConnections + 1 }

def recordConnectionClosed (m : ConnectionMetrics) (durationMs : ℕ) : ConnectionMetrics :=
  let m := if 0 < m.activeConnections then { m with activeConnections := m.activeConnections - 1 } else m
  let totalConnections := m.totalConnections
  if 0 < totalConnections then
    { m with
      avgConnectionDurationMs := (m.avgConnectionDurationMs * (totalConnections - 1) + durationMs) / totalConnections }
  else m

inductive Event where
  | established
  | closed (durationMs : ℕ)
  deriving DecidableEq, Repr

def record (m : ConnectionMetrics) : Event → ConnectionMetrics
  | .established => recordConnectionEstablished m
  | .closed durationMs => recordConnectionClosed m durationMs

def run (es : List Event) : ConnectionMetrics := es.foldl record .default

def durations (es : List Event) : List ℕ :=
  es.filterMap (fun | .established => none | .closed durationMs => some durationMs)

/-- The average is not below the smallest duration and not above the largest. -/
def Between (es : List Event) : Prop :=
  ∃ lo ∈ durations es, ∃ hi ∈ durations es,
    lo ≤ (run es).avgConnectionDurationMs ∧ (run es).avgConnectionDurationMs ≤ hi

/-- The first close is that of the only connection so far, or of a connection of 0 ms. -/
def FirstCloseAlone (es : List Event) : Prop :=
  ∀ before d after, es = before ++ .closed d :: after → durations before = [] → before = [.established] ∨ d = 0

theorem run_snoc (es : List Event) (e : Event) : run (es ++ [e]) = record (run es) e := List.foldl_concat ..

@[simp] theorem durations_established (es : List Event) : durations (es ++ [.established]) = durations es := by
  simp [durations]

@[simp] theorem durations_closed (es : List Event) (d : ℕ) : durations (es ++ [.closed d]) = durations es ++ [d] := by
  simp [durations]

theorem le_mean {m a d n : ℕ} (hn : 0 < n) (ha : m ≤ a) (hd : m ≤ d) : m ≤ (a * (n - 1) + d) / n := by
  obtain ⟨k, rfl⟩ := Nat.exists_eq_add_of_lt hn
  rw [Nat.le_div_iff_mul_le hn]
  calc m * (0 + k + 1) = m * k + m := by ring
    _ ≤ a * (0 + k + 1 - 1) + d := by
      rw [Nat.zero_add, Nat.add_sub_cancel]
      exact Nat.add_le_add (Nat.mul_le_mul_right k ha) hd

theorem mean_le {m a d n : ℕ} (hn : 0 < n) (ha : a ≤ m) (hd : d ≤ m) : (a * (n - 1) + d) / n ≤ m := by
  obtain ⟨k, rfl⟩ := Nat.exists_eq_add_of_lt hn
  apply Nat.div_le_of_le_mul
  calc a * (0 + k + 1 - 1) + d ≤ m * k + m := by
        rw [Nat.zero_add, Nat.add_sub_cancel]
        exact Nat.add_le_add (Nat.mul_le_mul_right k ha) hd
    _ = (0 + k + 1) * m := by ring

theorem closed_avg (m : ConnectionMetrics) (d : ℕ) : (recordConnectionClosed m d).avgConnectionDurationMs =
    if 0 < m.totalConnections then (m.avgConnectionDurationMs * (m.totalConnections - 1) + d) / m.totalConnections
    else m.avgConnectionDurationMs := by
  unfold recordConnectionClosed
  split <;> dsimp only <;> split <;> rfl

theorem run_of_durations_nil {es : List Event} (h : durations es = []) :
    es = List.replicate es.length .established ∧ (run es).totalConnections = es.length ∧
      (run es).avgConnectionDurationMs = 0 := by
  induction es using List.reverseRecOn with
  | nil => exact ⟨rfl, rfl, rfl⟩
  | append_singleton es e ih =>
    cases e with
    | established =>
      rw [durations_established] at h
      obtain ⟨hes, htotal, havg⟩ := ih h
      rw [run_snoc, List.length_append, List.length_singleton, List.replicate_succ', ← hes]
      exact ⟨rfl, congrArg (· + 1) htotal, havg⟩
    | closed d =>
      rw [durations_closed] at h
      exact absurd h (List.append_ne_nil_of_right_ne_nil _ (List.cons_ne_nil d []))

theorem first_close_avg {es : List Event} (h : durations es = []) (d : ℕ) :
    (run (es ++ [.closed d])).avgConnectionDurationMs = d / es.length := by
  obtain ⟨-, htotal, havg⟩ := run_of_durations_nil h
  rw [run_snoc, record, closed_avg, htotal, havg, Nat.zero_mul, Nat.zero_add]
  split
  · rfl
  · rename_i hzero
    rw [Nat.eq_zero_of_not_pos hzero, Nat.div_zero]

theorem first_close_between {es : List Event} (h : durations es = []) (d : ℕ) :
    Between (es ++ [.closed d]) ↔ es = [.established] ∨ d = 0 := by
  rw [Between, durations_closed, h, List.nil_append, first_close_avg h]
  simp only [List.mem_singleton, exists_eq_left]
  constructor
  · rintro ⟨hle, -⟩
    by_cases hd : d = 0
    · exact .inr hd
    · -- a quotient not below its dividend was divided by one
      have hone : es.length = 1 := by
        by_contra hlen
        rcases Nat.lt_or_ge es.length 2 with hlt | hge
        · rw [show es.length = 0 by omega, Nat.div_zero] at hle
          omega
        · have hlt := Nat.div_lt_self (Nat.pos_of_ne_zero hd) hge
          omega
      have hes := (run_of_durations_nil h).1
      rw [hone] at hes
      exact .inl hes
  · rintro (rfl | rfl)
    · simp
    · simp

theorem Between.record {es : List Event} (h : Between es) (e : Event) : Between (es ++ [e]) := by
  obtain ⟨lo, hlo, hi, hhi, hle, hge⟩ := h
  rw [Between, run_snoc]
  cases e with
  | established =>
    rw [durations_established]
    exact ⟨lo, hlo, hi, hhi, hle, hge⟩
  | closed d =>
    rw [durations_closed, MonitoringSystem.record, closed_avg]
    have hmem : ∀ a ∈ durations es, a ∈ durations es ++ [d] := fun a ha => List.mem_append_left _ ha
    split
    · rename_i hpos
      refine ⟨min lo d, ?_, max hi d, ?_, le_mean hpos (min_le_of_left_le hle) (min_le_right _ _),
        mean_le hpos (le_max_of_le_left hge) (le_max_right _ _)⟩
      · rcases min_choice lo d with hmin | hmin <;> rw [hmin]
        · exact hmem lo hlo
        · simp
      · rcases max_choice hi d with hmax | hmax <;> rw [hmax]
        · exact hmem hi hhi
        · simp
    · exact ⟨lo, hmem lo hlo, hi, hmem hi hhi, hle, hge⟩

theorem average_between_iff (es : List Event) :
    (∀ before, before <+: es → durations before ≠ [] → Between before) ↔ FirstCloseAlone es := by
  constructor
  · rintro h before d after rfl hnone
    have hprefix : before ++ [.closed d] <+: before ++ .closed d :: after := ⟨after, by simp⟩
    exact (first_close_between hnone d).mp (h _ hprefix (by simp))
  · intro h before hbefore hsome
    induction before using List.reverseRecOn with
    | nil => exact absurd rfl hsome
    | append_singleton before e ih =>
      by_cases hnone : durations before = []
      · cases e with
        | established =>
          rw [durations_established] at hsome
          exact absurd hnone hsome
        | closed d =>
          obtain ⟨after, rfl⟩ := hbefore
          exact (first_close_between hnone d).mpr (h before d after (by simp) hnone)
      · exact (ih ((List.prefix_append _ _).trans hbefore) hnone).record e

def sampleRun : List Event := [.established, .established, .closed 100]

theorem first_of_two_averaged :
    (∀ before ∈ sampleRun.inits, (durations before).length ≤ before.count .established) ∧
      durations sampleRun = [100] ∧ (run sampleRun).avgConnectionDurationMs = 50 ∧ ¬ Between sampleRun := by
  refine ⟨by decide, rfl, rfl, ?_⟩
  rintro ⟨lo, hlo, hi, hhi, hle, -⟩
  obtain rfl : lo = 100 := List.mem_singleton.mp hlo
  exact absurd hle (by decide)

end GscFq.MonitoringSystem
