import GscFq.ConnectionSelector
import GscFq.WeightedChoice

namespace GscFq.ConnectionSelector

open WeightedChoice

variable {α : Type}

/-- The loop of `select_weighted_random` with its subtraction checked. -/
def weightedLoopChecked : List UInt8 → ℕ → UInt32 → Option (Option ℕ)
  | [], _, _ => some none
  | score :: rest, idx, randomWeight =>
    if randomWeight < score.toUInt32 then some (some idx)
    else if score.toUInt32 ≤ randomWeight then weightedLoopChecked rest (idx + 1) (randomWeight - score.toUInt32)
    else none

/-- The total of the scores as a number, which no arithmetic of the code wraps. -/
def scoreSum (score : α → UInt8) (pool : List α) : ℕ := (pool.map (fun conn => (score conn).toNat)).sum

theorem weightedLoopChecked_eq (scores : List UInt8) (idx : ℕ) (randomWeight : UInt32) :
    weightedLoopChecked scores idx randomWeight = some (weightedLoop scores idx randomWeight) := by
  induction scores generalizing idx randomWeight with
  | nil => rfl
  | cons score rest ih =>
    rw [weightedLoopChecked, weightedLoop]
    split
    · rfl
    · rename_i hge
      rw [if_pos (UInt32.not_lt.mp hge), ih]

theorem weightedLoop_choose (scores : List UInt8) (idx : ℕ) (randomWeight : UInt32) :
    weightedLoop scores idx randomWeight = (choose (scores.map UInt8.toNat) randomWeight.toNat).map (idx + ·) := by
  induction scores generalizing idx randomWeight with
  | nil => rfl
  | cons score rest ih =>
    rw [weightedLoop, List.map_cons, choose]
    by_cases hlt : randomWeight < score.toUInt32
    · have hnat : randomWeight.toNat < score.toNat := UInt32.lt_iff_toNat_lt.mp hlt
      rw [if_pos hlt, if_pos hnat]
      rfl
    · have hle := UInt32.not_lt.mp hlt
      have hnat : ¬ randomWeight.toNat < score.toNat := fun h => hlt (UInt32.lt_iff_toNat_lt.mpr h)
      rw [if_neg hlt, if_neg hnat, ih, UInt32.toNat_sub_of_le _ _ hle, Option.map_map]
      congr 1
      funext i
      change idx + 1 + i = idx + (i + 1)
      omega

theorem totalWeight_foldl (scores : List UInt8) (total : UInt32)
    (h : total.toNat + 255 * scores.length < 2 ^ 32) :
    (scores.foldl (fun total s => total + s.toUInt32) total).toNat = total.toNat + (scores.map UInt8.toNat).sum := by
  induction scores generalizing total with
  | nil => simp
  | cons score rest ih =>
    have hscore : score.toNat < 256 := score.toNat_lt
    rw [List.length_cons] at h
    have hadd : (total + score.toUInt32).toNat = total.toNat + score.toNat := by
      rw [UInt32.toNat_add, UInt8.toNat_toUInt32]
      exact Nat.mod_eq_of_lt (by omega)
    rw [List.foldl_cons, ih _ (by rw [hadd]; omega), hadd, List.map_cons, List.sum_cons, Nat.add_assoc]

theorem totalWeight_toNat (score : α → UInt8) {pool : List α} (h : pool.length < 2 ^ 24) :
    (totalWeight (pool.map score)).toNat = scoreSum score pool := by
  have hroom : (0 : UInt32).toNat + 255 * (pool.map score).length < 2 ^ 32 := by
    rw [List.length_map, UInt32.toNat_zero]
    omega
  rw [totalWeight, totalWeight_foldl _ _ hroom, List.map_map, UInt32.toNat_zero, Nat.zero_add]
  rfl

theorem weightedLoop_pool (score : α → UInt8) (pool : List α) (draw : UInt32) :
    weightedLoop (pool.map score) 0 draw = choose (pool.map (fun conn => (score conn).toNat)) draw.toNat := by
  rw [weightedLoop_choose, List.map_map]
  simp only [Nat.zero_add, Option.map_id']
  rfl

theorem weightedLoop_draw (score : α → UInt8) {pool : List α} {draw : UInt32} (h : draw.toNat < scoreSum score pool) :
    ∃ i, ∃ hi : i < pool.length, weightedLoop (pool.map score) 0 draw = some i ∧ 0 < score pool[i] := by
  obtain ⟨i, hchosen⟩ := Option.isSome_iff_exists.mp (choose_isSome_iff.mpr h)
  obtain ⟨w, hw, hpos⟩ := choose_weight hchosen
  rw [List.getElem?_map] at hw
  obtain ⟨conn, hconn, rfl⟩ := Option.map_eq_some_iff.mp hw
  obtain ⟨hi, rfl⟩ := List.getElem?_eq_some_iff.mp hconn
  exact ⟨i, hi, by rw [weightedLoop_pool, hchosen], UInt8.lt_iff_toNat_lt.mpr hpos⟩

theorem weighted_selection_proportional (score : α → UInt8) {pool : List α} (h : pool.length < 2 ^ 24) :
    (totalWeight (pool.map score)).toNat = scoreSum score pool ∧
    (∀ draw : UInt32, draw.toNat < scoreSum score pool →
      weightedLoopChecked (pool.map score) 0 draw = some (weightedLoop (pool.map score) 0 draw) ∧
        ∃ i, ∃ hi : i < pool.length, weightedLoop (pool.map score) 0 draw = some i ∧ 0 < score pool[i] ∧
          ∀ index, ∃ rest, selectWeightedRandom score pool ⟨index, draw⟩ = some (some pool[i], rest)) ∧
    ∀ i, ∀ hi : i < pool.length, ((Finset.range (scoreSum score pool)).filter
      (fun draw => weightedLoop (pool.map score) 0 (UInt32.ofNat draw) = some i)).card = (score pool[i]).toNat := by
  have htotal := totalWeight_toNat score h
  refine ⟨htotal, ?_, ?_⟩
  · intro draw hdraw
    obtain ⟨i, hi, hloop, hpos⟩ := weightedLoop_draw score hdraw
    refine ⟨weightedLoopChecked_eq _ _ _, i, hi, hloop, hpos, ?_⟩
    intro index
    obtain ⟨rest, hrest, -⟩ := swapRemove_eq hi
    have hne : pool ≠ [] := List.ne_nil_of_length_pos (by omega)
    have hweight : totalWeight (pool.map score) ≠ 0 := by
      intro hzero
      rw [hzero, UInt32.toNat_zero] at htotal
      omega
    refine ⟨rest, ?_⟩
    rw [selectWeightedRandom, if_neg hne, if_neg hweight, hloop]
    exact hrest
  · intro i hi
    have hsum : scoreSum score pool < 2 ^ 32 := htotal ▸ UInt32.toNat_lt _
    rw [← @card_choose (pool.map (fun conn => (score conn).toNat)) i (score pool[i]).toNat (by simp [hi])]
    congr 1
    apply Finset.filter_congr
    intro draw hdraw
    have hsmall : draw < 2 ^ 32 := (Finset.mem_range.mp hdraw).trans hsum
    rw [weightedLoop_pool, UInt32.toNat_ofNat_of_lt' hsmall]

theorem three_scores_proportional :
    ((Finset.range 6).filter (fun draw => weightedLoop [3, 0, 3] 0 (UInt32.ofNat draw) = some 2)).card = 3 :=
  (@weighted_selection_proportional UInt8 (fun n => n) [3, 0, 3] (by decide)).2.2 2 (by decide)

end GscFq.ConnectionSelector
