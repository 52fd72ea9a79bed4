import GscFq.Errors
import GscFq.IpAddr

namespace GscFq.Blackhole

/-- `seed` is the time of the day in nanoseconds, cut to its low 64 bits. -/
def pseudoRandomRange (seed min max : UInt64) : UInt64 :=
  let a : UInt64 := 1664525
  let c : UInt64 := 1013904223
  let m : UInt64 := 4294967296
  let result := (a * seed + c) % m
  min + result % (max - min + 1)

theorem pseudoRandomRange_bounds (seed : UInt64) {min max : UInt64} (hle : min ≤ max) (hmax : max.toNat < 2 ^ 64 - 1) :
    min ≤ pseudoRandomRange seed min max ∧ pseudoRandomRange seed min max ≤ max := by
  have hspan : (max - min + 1).toNat = max.toNat - min.toNat + 1 := by
    rw [UInt64.toNat_add, UInt64.toNat_sub_of_le _ _ hle]
    have hone : (1 : UInt64).toNat = 1 := rfl
    rw [hone]
    omega
  unfold pseudoRandomRange
  dsimp only
  generalize (1664525 * seed + 1013904223) % 4294967296 = result
  rw [UInt64.le_iff_toNat_le] at hle
  have hlt : (result % (max - min + 1)).toNat < max.toNat - min.toNat + 1 := by
    rw [UInt64.toNat_mod, hspan]
    exact Nat.mod_lt _ (Nat.succ_pos _)
  have hsum : (min + result % (max - min + 1)).toNat = min.toNat + (result % (max - min + 1)).toNat := by
    rw [UInt64.toNat_add]
    omega
  rw [UInt64.le_iff_toNat_le, UInt64.le_iff_toNat_le, hsum]
  omega

def fromSecs (seconds : UInt64) : ℕ := seconds.toNat * 1000000000

/-- `Duration - Duration` panics where the subtrahend is the greater. -/
def checkedSub (a b : ℕ) : Option ℕ := if b ≤ a then some (a - b) else none

inductive Read where
  | absorbed (n : ℕ)
  | disconnected
  | failed (e : IoError)
  deriving DecidableEq, Repr

inductive Outcome where
  | ok
  | panicked
  deriving DecidableEq, Repr

/-- The loop from its turn `j` on. `clock` is what `Instant::now` returns, call by call: the start, then in every
turn the test of the loop and the subtraction. Where `reads` ends, the sleep is over before the client sends more. -/
def absorb (delay : ℕ) (clock : ℕ → ℕ) (reads : List Read) (j : ℕ) : Outcome :=
  if clock (2 * j + 1) - clock 0 < delay then
    match checkedSub delay (clock (2 * j + 2) - clock 0) with
    | none => .panicked
    | some _ =>
      match reads with
      | .absorbed _ :: reads => absorb delay clock reads (j + 1)
      | .disconnected :: _ => .ok
      | .failed _ :: _ => .ok
      | [] => .ok
  else .ok

def clientAddr (peerAddr : Option SocketAddr) : Option SocketAddr :=
  match peerAddr with
  | some addr => some addr
  | none => IpAddr.parseSocketAddr "0.0.0.0:0"

def enterBlackholeMode (peerAddr : Option SocketAddr) (seed : UInt64) (clock : ℕ → ℕ) (reads : List Read) : Outcome :=
  match clientAddr peerAddr with
  | none => .panicked
  | some _ => absorb (fromSecs (pseudoRandomRange seed 5 30)) clock reads 0

def enterBlackholeModeEnhanced (seed : UInt64) (clock : ℕ → ℕ) (reads : List Read) : Outcome :=
  absorb (fromSecs (pseudoRandomRange seed 120 1800)) clock reads 0

def leading : List Read → ℕ
  | .absorbed _ :: reads => leading reads + 1
  | _ => 0

/-- In turn `j` the delay runs out between the test of the loop and the subtraction. -/
def RunsOut (delay : ℕ) (clock : ℕ → ℕ) (j : ℕ) : Prop :=
  clock (2 * j + 1) - clock 0 < delay ∧ delay < clock (2 * j + 2) - clock 0

theorem clientAddr_isSome (peerAddr : Option SocketAddr) : ∃ addr, clientAddr peerAddr = some addr := by
  cases peerAddr with
  | some addr => exact ⟨addr, rfl⟩
  | none => exact ⟨.new (.v4 0 0 0 0) 0, by decide +kernel⟩

theorem checkedSub_eq_none {a b : ℕ} : checkedSub a b = none ↔ a < b := by
  unfold checkedSub
  split <;> simp <;> omega

variable {clock : ℕ → ℕ} {delay j : ℕ}

theorem absorb_late (h : delay ≤ clock (2 * j + 1) - clock 0) (reads : List Read) :
    absorb delay clock reads j = .ok := by
  unfold absorb
  rw [if_neg (Nat.not_lt.mpr h)]

theorem absorb_runsOut (h : RunsOut delay clock j) (reads : List Read) : absorb delay clock reads j = .panicked := by
  unfold absorb
  rw [if_pos h.1, checkedSub_eq_none.mpr h.2]

theorem checkedSub_of_not_runsOut (htest : clock (2 * j + 1) - clock 0 < delay) (h : ¬ RunsOut delay clock j) :
    ∃ d, checkedSub delay (clock (2 * j + 2) - clock 0) = some d := by
  rw [← Option.ne_none_iff_exists', Ne, checkedSub_eq_none]
  exact fun hlt => h ⟨htest, hlt⟩

theorem absorb_last {reads : List Read} (hleading : leading reads = 0) :
    absorb delay clock reads j = .ok ↔ ¬ RunsOut delay clock j := by
  by_cases hout : RunsOut delay clock j
  · simp [absorb_runsOut hout, hout]
  · simp only [hout, not_false_eq_true, iff_true]
    by_cases htest : clock (2 * j + 1) - clock 0 < delay
    · obtain ⟨d, hd⟩ := checkedSub_of_not_runsOut htest hout
      unfold absorb
      rw [if_pos htest, hd]
      cases reads with
      | nil => rfl
      | cons r reads =>
        cases r with
        | absorbed => cases hleading
        | disconnected | failed => rfl
    · exact absorb_late (Nat.le_of_not_lt htest) reads

theorem absorb_absorbed (hmono : Monotone clock) (n : ℕ) (reads : List Read) :
    absorb delay clock (.absorbed n :: reads) j = .ok ↔
      ¬ RunsOut delay clock j ∧ absorb delay clock reads (j + 1) = .ok := by
  by_cases hout : RunsOut delay clock j
  · simp [absorb_runsOut hout, hout]
  · simp only [hout, not_false_eq_true, true_and]
    by_cases htest : clock (2 * j + 1) - clock 0 < delay
    · obtain ⟨d, hd⟩ := checkedSub_of_not_runsOut htest hout
      rw [absorb, if_pos htest, hd]
    · -- no turn begins once the delay is over
      have hlate : delay ≤ clock (2 * j + 1) - clock 0 := Nat.le_of_not_lt htest
      have hclock : clock (2 * j + 1) ≤ clock (2 * (j + 1) + 1) := hmono (by omega)
      have hnext : delay ≤ clock (2 * (j + 1) + 1) - clock 0 := by omega
      simp [absorb_late hlate, absorb_late hnext]

theorem absorb_ok_iff (hmono : Monotone clock) (delay : ℕ) (reads : List Read) (j : ℕ) :
    absorb delay clock reads j = .ok ↔ ∀ i, j ≤ i → i ≤ j + leading reads → ¬ RunsOut delay clock i := by
  have hlast {reads : List Read} (hleading : leading reads = 0) (j : ℕ) :
      absorb delay clock reads j = .ok ↔ ∀ i, j ≤ i → i ≤ j + leading reads → ¬ RunsOut delay clock i := by
    rw [absorb_last hleading, hleading]
    constructor
    · intro hout i hji hij
      obtain rfl : i = j := by omega
      exact hout
    · exact fun hall => hall j le_rfl le_rfl
  induction reads generalizing j with
  | nil => exact hlast rfl j
  | cons r reads ih =>
    cases r with
    | disconnected | failed => exact hlast rfl j
    | absorbed n =>
      have hleading : leading (.absorbed n :: reads) = leading reads + 1 := rfl
      rw [absorb_absorbed hmono, hleading]
      constructor
      · rintro ⟨hout, hrest⟩ i hji hij
        rcases Nat.eq_or_lt_of_le hji with rfl | hlt
        · exact hout
        · exact (ih (j + 1)).mp hrest i hlt (by omega)
      · intro hall
        refine ⟨hall j le_rfl (by omega), (ih (j + 1)).mpr ?_⟩
        exact fun i hji hij => hall i (by omega) (by omega)

theorem blackhole_ok_iff (hmono : Monotone clock) (seed : UInt64) (reads : List Read) :
    (∀ peerAddr, enterBlackholeMode peerAddr seed clock reads = .ok ↔
        ∀ i ≤ leading reads, ¬ RunsOut (fromSecs (pseudoRandomRange seed 5 30)) clock i) ∧
      (enterBlackholeModeEnhanced seed clock reads = .ok ↔
        ∀ i ≤ leading reads, ¬ RunsOut (fromSecs (pseudoRandomRange seed 120 1800)) clock i) := by
  constructor
  · intro peerAddr
    obtain ⟨addr, haddr⟩ := clientAddr_isSome peerAddr
    rw [enterBlackholeMode, haddr]
    simpa using absorb_ok_iff hmono (fromSecs (pseudoRandomRange seed 5 30)) reads 0
  · unfold enterBlackholeModeEnhanced
    simpa using absorb_ok_iff hmono (fromSecs (pseudoRandomRange seed 120 1800)) reads 0

theorem steady_clock_ok :
    enterBlackholeMode none 7 (fun i => i * 1000) [.absorbed 4096, .absorbed 1, .disconnected] = .ok := by
  refine ((blackhole_ok_iff (fun i k hik => Nat.mul_le_mul_right _ hik) 7 _).1 none).mpr ?_
  intro i hi hout
  have hlong : 5 * 1000000000 ≤ fromSecs (pseudoRandomRange 7 5 30) := by decide +kernel
  have hturns : i ≤ 2 := hi
  have hlate := hout.2
  simp only at hlate
  omega

def lateClock (delay : ℕ) : ℕ → ℕ
  | 0 => 0
  | 1 => delay - 1
  | _ + 2 => delay + 1

theorem lateClock_monotone (delay : ℕ) : Monotone (lateClock delay) := by
  apply monotone_nat_of_le_succ
  intro n
  match n with
  | 0 => exact Nat.zero_le _
  | 1 =>
    change delay - 1 ≤ delay + 1
    omega
  | _ + 2 => exact le_rfl

theorem lateClock_runsOut {delay : ℕ} (h : 0 < delay) : RunsOut delay (lateClock delay) 0 := by
  constructor
  · change delay - 1 - 0 < delay
    omega
  · change delay < delay + 1 - 0
    omega

theorem fromSecs_pos (seed : UInt64) {min max : UInt64} (hpos : 0 < min) (hle : min ≤ max)
    (hmax : max.toNat < 2 ^ 64 - 1) : 0 < fromSecs (pseudoRandomRange seed min max) := by
  have hmin := (pseudoRandomRange_bounds seed hle hmax).1
  rw [UInt64.le_iff_toNat_le] at hmin
  rw [UInt64.lt_iff_toNat_lt] at hpos
  unfold fromSecs
  have hzero : (0 : UInt64).toNat = 0 := rfl
  omega

theorem lateClock_panics (peerAddr : Option SocketAddr) (seed : UInt64) (reads : List Read) :
    enterBlackholeMode peerAddr seed (lateClock (fromSecs (pseudoRandomRange seed 5 30))) reads = .panicked ∧
      enterBlackholeModeEnhanced seed (lateClock (fromSecs (pseudoRandomRange seed 120 1800))) reads = .panicked := by
  obtain ⟨addr, haddr⟩ := clientAddr_isSome peerAddr
  rw [enterBlackholeMode, haddr, enterBlackholeModeEnhanced]
  constructor
  · exact absorb_runsOut (lateClock_runsOut (fromSecs_pos seed (by decide) (by decide) (by decide))) reads
  · exact absorb_runsOut (lateClock_runsOut (fromSecs_pos seed (by decide) (by decide) (by decide))) reads

theorem silent_client_panics :
    (Monotone (lateClock (fromSecs (pseudoRandomRange 7 5 30))) ∧
        enterBlackholeMode none 7 (lateClock (fromSecs (pseudoRandomRange 7 5 30))) [] ≠ .ok) ∧
      Monotone (lateClock (fromSecs (pseudoRandomRange 7 120 1800))) ∧
        enterBlackholeModeEnhanced 7 (lateClock (fromSecs (pseudoRandomRange 7 120 1800))) [] ≠ .ok := by
  obtain ⟨hmode, henhanced⟩ := lateClock_panics none 7 []
  exact ⟨⟨lateClock_monotone _, by simp [hmode]⟩, lateClock_monotone _, by simp [henhanced]⟩

end GscFq.Blackhole
