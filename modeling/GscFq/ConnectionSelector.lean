import GscFq.Lists
import Mathlib.Data.List.Perm.Basic

/-!
`ConnectionSelector` over any type of connections. A call reads one score of every connection and draws its random numbers
at most once; both are arguments. An outer `none` is a panic, and `usize` and `u32` wrap as in the release profile.
-/

namespace GscFq.ConnectionSelector

inductive SelectionStrategy where
  | bestQuality
  | weightedRandom
  | roundRobin
  | leastConnections
  deriving DecidableEq, Repr

/-- `index` is drawn from `0..pool.len()` and `weight` from `0..total_weight`. -/
structure Draws where
  index : ℕ
  weight : UInt32
  deriving DecidableEq, Repr

variable {α : Type}

abbrev Selected (α : Type) := Option (Option α × List α)

def swapRemove (pool : List α) (index : ℕ) : Selected α :=
  match pool[index]?, pool.getLast? with
  | some conn, some last => some (some conn, (pool.set index last).dropLast)
  | _, _ => none

def bestLoop (score : α → UInt8) : List α → ℕ → ℕ → UInt8 → ℕ
  | [], _, bestIndex, _ => bestIndex
  | conn :: rest, idx, bestIndex, bestScore =>
    if bestScore < score conn then bestLoop score rest (idx + 1) idx (score conn)
    else bestLoop score rest (idx + 1) bestIndex bestScore

def selectBestQuality (score : α → UInt8) (pool : List α) : Selected α :=
  match pool with
  | [] => some (none, [])
  | first :: rest => swapRemove (first :: rest) (bestLoop score rest 1 0 (score first))

def totalWeight (scores : List UInt8) : UInt32 := scores.foldl (fun total s => total + s.toUInt32) 0

def weightedLoop : List UInt8 → ℕ → UInt32 → Option ℕ
  | [], _, _ => none
  | score :: rest, idx, randomWeight =>
    if randomWeight < score.toUInt32 then some idx else weightedLoop rest (idx + 1) (randomWeight - score.toUInt32)

def selectWeightedRandom (score : α → UInt8) (pool : List α) (draws : Draws) : Selected α :=
  if pool = [] then some (none, [])
  else if totalWeight (pool.map score) = 0 then swapRemove pool draws.index
  else
    match weightedLoop (pool.map score) 0 draws.weight with
    | some idx => swapRemove pool idx
    | none => swapRemove pool (pool.length - 1)

def selectRoundRobin (pool : List α) (roundRobinIndex : ℕ) : Selected α × ℕ :=
  if pool = [] then (some (none, []), roundRobinIndex)
  else (swapRemove pool (roundRobinIndex % pool.length), (roundRobinIndex + 1) % 2 ^ 64 % pool.length)

def select (score : α → UInt8) (pool : List α) (strategy : SelectionStrategy) (roundRobinIndex : ℕ) (draws : Draws) :
    Selected α × ℕ :=
  if pool = [] then (some (none, []), roundRobinIndex)
  else
    match strategy with
    | .bestQuality => (selectBestQuality score pool, roundRobinIndex)
    | .weightedRandom => (selectWeightedRandom score pool draws, roundRobinIndex)
    | .roundRobin => selectRoundRobin pool roundRobinIndex
    | .leastConnections => (selectBestQuality score pool, roundRobinIndex)

structure Call (α : Type) where
  score : α → UInt8
  strategy : SelectionStrategy
  draws : Draws

def selectAll : List (Call α) → List α → ℕ → Option (List (Option α) × List α)
  | [], pool, _ => some ([], pool)
  | call :: calls, pool, roundRobinIndex =>
    let (selected, roundRobinIndex) := select call.score pool call.strategy roundRobinIndex call.draws
    selected.bind fun (conn, pool) =>
      (selectAll calls pool roundRobinIndex).map fun (conns, pool) => (conn :: conns, pool)

structure Draws.InRange (draws : Draws) (score : α → UInt8) (pool : List α) : Prop where
  index : pool ≠ [] → draws.index < pool.length
  weight : totalWeight (pool.map score) ≠ 0 → draws.weight < totalWeight (pool.map score)

def AllInRange : List (Call α) → List α → ℕ → Prop
  | [], _, _ => True
  | call :: calls, pool, roundRobinIndex =>
    call.draws.InRange call.score pool ∧
      ∀ conn rest, (select call.score pool call.strategy roundRobinIndex call.draws).1 = some (conn, rest) →
        AllInRange calls rest (select call.score pool call.strategy roundRobinIndex call.draws).2

def Takes (pool : List α) (selected : Selected α) : Prop :=
  ∃ conn rest, selected = some (some conn, rest) ∧ (conn :: rest).Perm pool

theorem swapRemove_eq {pool : List α} {index : ℕ} (h : index < pool.length) :
    ∃ rest, swapRemove pool index = some (some pool[index], rest) ∧ (pool[index] :: rest).Perm pool := by
  rcases List.eq_nil_or_concat pool with rfl | ⟨front, last, rfl⟩
  · simp at h
  · simp only [List.concat_eq_append, List.length_append, List.length_singleton] at h ⊢
    refine ⟨((front ++ [last]).set index last).dropLast, ?_, ?_⟩
    · simp [swapRemove, h]
    · by_cases hindex : index < front.length
      · rw [List.set_append_left _ _ hindex, List.dropLast_concat, List.getElem_append_left hindex]
        calc front[index] :: front.set index last
            |>.Perm (front[index] :: last :: front.eraseIdx index) :=
              (List.set_perm_cons_eraseIdx hindex last).cons _
          _ |>.Perm (last :: front[index] :: front.eraseIdx index) := List.Perm.swap ..
          _ |>.Perm (last :: front) := (List.getElem_cons_eraseIdx_perm hindex).cons _
          _ |>.Perm (front ++ [last]) := (List.perm_append_singleton last front).symm
      · obtain rfl : index = front.length := by omega
        simpa using (List.perm_append_singleton last front).symm

theorem swapRemove_takes {pool : List α} {index : ℕ} (h : index < pool.length) : Takes pool (swapRemove pool index) := by
  obtain ⟨rest, hrest⟩ := swapRemove_eq h
  exact ⟨_, rest, hrest⟩

theorem bestLoop_max (score : α → UInt8) {front rest : List α} {bestIndex : ℕ} {best : α}
    (hget : front[bestIndex]? = some best) (hmax : ∀ conn ∈ front, score conn ≤ score best) :
    ∃ conn, (front ++ rest)[bestLoop score rest front.length bestIndex (score best)]? = some conn ∧
      ∀ other ∈ front ++ rest, score other ≤ score conn := by
  induction rest generalizing front bestIndex best with
  | nil =>
    rw [List.append_nil]
    exact ⟨best, hget, hmax⟩
  | cons conn rest ih =>
    have hfront : front ++ conn :: rest = (front ++ [conn]) ++ rest := by simp
    have hlen : front.length + 1 = (front ++ [conn]).length := by simp
    rw [hfront, bestLoop, hlen]
    split
    · rename_i hbetter
      apply ih List.getElem?_concat_length
      simp only [List.forall_mem_append, List.forall_mem_singleton]
      exact ⟨fun other hother => UInt8.le_trans (hmax other hother) (UInt8.le_of_lt hbetter), UInt8.le_refl _⟩
    · rename_i hbetter
      have hlt : bestIndex < front.length := (List.getElem?_eq_some_iff.mp hget).1
      apply ih ((List.getElem?_append_left hlt).trans hget)
      simp only [List.forall_mem_append, List.forall_mem_singleton]
      exact ⟨hmax, UInt8.not_lt.mp hbetter⟩

theorem selectBestQuality_max (score : α → UInt8) {pool : List α} (h : pool ≠ []) :
    ∃ conn rest, selectBestQuality score pool = some (some conn, rest) ∧ (conn :: rest).Perm pool ∧
      ∀ other ∈ pool, score other ≤ score conn := by
  cases pool with
  | nil => exact absurd rfl h
  | cons first rest =>
    obtain ⟨conn, hget, hmax⟩ := @bestLoop_max α score [first] rest 0 first rfl (by simp)
    obtain ⟨hlt, rfl⟩ := List.getElem?_eq_some_iff.mp hget
    obtain ⟨left, hleft, hperm⟩ := swapRemove_eq hlt
    exact ⟨_, left, hleft, hperm, hmax⟩

theorem weightedLoop_lt {scores : List UInt8} {idx i : ℕ} {randomWeight : UInt32}
    (h : weightedLoop scores idx randomWeight = some i) : i < idx + scores.length := by
  induction scores generalizing idx randomWeight with
  | nil => cases h
  | cons score scores ih =>
    rw [weightedLoop] at h
    rw [List.length_cons]
    split at h
    · cases h
      omega
    · have hrest := ih h
      omega

theorem selectWeightedRandom_takes {score : α → UInt8} {pool : List α} {draws : Draws} (h : pool ≠ [])
    (hdraws : draws.InRange score pool) : Takes pool (selectWeightedRandom score pool draws) := by
  have hlen := List.length_pos_iff.mpr h
  unfold selectWeightedRandom
  rw [if_neg h]
  split
  · exact swapRemove_takes (hdraws.index h)
  · split
    · rename_i idx hidx
      have hlt := weightedLoop_lt hidx
      rw [List.length_map, Nat.zero_add] at hlt
      exact swapRemove_takes hlt
    · exact swapRemove_takes (by omega)

theorem selectRoundRobin_takes {pool : List α} (h : pool ≠ []) (roundRobinIndex : ℕ) :
    Takes pool (selectRoundRobin pool roundRobinIndex).1 := by
  rw [selectRoundRobin, if_neg h]
  exact swapRemove_takes (Nat.mod_lt _ (List.length_pos_iff.mpr h))

example : selectRoundRobin [50, 60, 70] 0 = (some (some 50, [70, 60]), 1) ∧
    selectRoundRobin [70, 60] 1 = (some (some 60, [70]), 0) := by decide

theorem select_nil (score : α → UInt8) (strategy : SelectionStrategy) (roundRobinIndex : ℕ) (draws : Draws) :
    select score [] strategy roundRobinIndex draws = (some (none, []), roundRobinIndex) := rfl

theorem select_takes {score : α → UInt8} {pool : List α} {draws : Draws} (h : pool ≠ [])
    (hdraws : draws.InRange score pool) (strategy : SelectionStrategy) (roundRobinIndex : ℕ) :
    Takes pool (select score pool strategy roundRobinIndex draws).1 := by
  have hbest : Takes pool (selectBestQuality score pool) := by
    obtain ⟨conn, rest, hselect, hperm, -⟩ := selectBestQuality_max score h
    exact ⟨conn, rest, hselect, hperm⟩
  unfold select
  rw [if_neg h]
  cases strategy with
  | bestQuality => exact hbest
  | weightedRandom => exact selectWeightedRandom_takes h hdraws
  | roundRobin => exact selectRoundRobin_takes h roundRobinIndex
  | leastConnections => exact hbest

theorem select_max {score : α → UInt8} {pool : List α} {strategy : SelectionStrategy}
    (hs : strategy = .bestQuality ∨ strategy = .leastConnections) {roundRobinIndex : ℕ} {draws : Draws} {conn : α}
    {rest : List α} (h : (select score pool strategy roundRobinIndex draws).1 = some (some conn, rest)) :
    ∀ other ∈ pool, score other ≤ score conn := by
  cases pool with
  | nil => simp
  | cons first pool =>
    have hbest : selectBestQuality score (first :: pool) = some (some conn, rest) := by
      rcases hs with rfl | rfl <;> exact h
    obtain ⟨conn', rest', hselect, -, hmax⟩ := selectBestQuality_max score (List.cons_ne_nil first pool)
    cases hselect.symm.trans hbest
    exact hmax

theorem selectAll_nil (calls : List (Call α)) (roundRobinIndex : ℕ) :
    selectAll calls ([] : List α) roundRobinIndex = some (List.replicate calls.length none, []) := by
  induction calls with
  | nil => rfl
  | cons call calls ih =>
    rw [selectAll, select_nil]
    simp only [Option.bind_some, ih, Option.map_some, List.length_cons, List.replicate_succ]

theorem selectAll_drains {calls : List (Call α)} {pool : List α} {roundRobinIndex : ℕ}
    (h : AllInRange calls pool roundRobinIndex) :
    ∃ taken rest, selectAll calls pool roundRobinIndex =
        some (taken.map some ++ List.replicate (calls.length - pool.length) none, rest) ∧
      (taken ++ rest).Perm pool ∧ taken.length = min calls.length pool.length := by
  induction calls generalizing pool roundRobinIndex with
  | nil => exact ⟨[], pool, by simp [selectAll], List.Perm.refl _, by simp⟩
  | cons call calls ih =>
    by_cases hpool : pool = []
    · subst hpool
      exact ⟨[], [], selectAll_nil _ _, List.Perm.refl _, by simp⟩
    · obtain ⟨hdraws, hrest⟩ := h
      obtain ⟨conn, left, hselect, hperm⟩ := select_takes hpool hdraws call.strategy roundRobinIndex
      obtain ⟨taken, rest, hall, hpermAll, hlen⟩ := ih (hrest _ _ hselect)
      have hsize := hperm.length_eq
      rw [List.length_cons] at hsize
      refine ⟨conn :: taken, rest, ?_, ?_, ?_⟩
      · simp only [selectAll, hselect, Option.bind_some, hall, Option.map_some, List.map_cons, List.cons_append,
          List.length_cons, ← hsize, Nat.add_sub_add_right]
      · exact (hpermAll.cons conn).trans hperm
      · rw [List.length_cons, List.length_cons, hlen, ← hsize]
        omega

theorem selection_loses_nothing :
    (∀ (score : α → UInt8) (pool : List α) (strategy : SelectionStrategy) (roundRobinIndex : ℕ) (draws : Draws),
      draws.InRange score pool → ∃ conn rest,
        (select score pool strategy roundRobinIndex draws).1 = some (conn, rest) ∧ (conn = none ↔ pool = []) ∧
          (conn.toList ++ rest).Perm pool ∧ (strategy = .bestQuality ∨ strategy = .leastConnections →
            ∀ best, conn = some best → ∀ other ∈ pool, score other ≤ score best)) ∧
    ∀ (calls : List (Call α)) (pool : List α) (roundRobinIndex : ℕ), AllInRange calls pool roundRobinIndex →
      ∃ taken rest, selectAll calls pool roundRobinIndex =
          some (taken.map some ++ List.replicate (calls.length - pool.length) none, rest) ∧
        (taken ++ rest).Perm pool ∧ taken.length = min calls.length pool.length ∧
          rest.length = pool.length - calls.length := by
  constructor
  · intro score pool strategy roundRobinIndex draws hdraws
    by_cases hpool : pool = []
    · subst hpool
      exact ⟨none, [], rfl, by simp, List.Perm.refl _, fun _ _ h => by cases h⟩
    · obtain ⟨conn, rest, hselect, hperm⟩ := select_takes hpool hdraws strategy roundRobinIndex
      refine ⟨some conn, rest, hselect, by simp [hpool], hperm, ?_⟩
      rintro hs _ ⟨⟩
      exact select_max hs hselect
  · intro calls pool roundRobinIndex h
    obtain ⟨taken, rest, hall, hperm, hlen⟩ := selectAll_drains h
    have hsize := hperm.length_eq
    rw [List.length_append] at hsize
    exact ⟨taken, rest, hall, hperm, hlen, by omega⟩

end GscFq.ConnectionSelector
