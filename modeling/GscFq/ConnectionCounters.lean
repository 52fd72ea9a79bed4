import GscFq.Lists
import GscFq.StealthSlots

namespace GscFq.Stealth

variable {h : StealthConnectionHandler}

def Stage.inProgress : Stage → Bool
  | .optimizing => true
  | .forwarding => true
  | .releasing _ => true
  | _ => false

/-- A success is counted and the gauge not yet taken down. -/
def Stage.settling : Stage → Bool
  | .releasing (.ok _) => true
  | _ => false

def inProgress (conns : List Conn) : ℕ := conns.countP (·.stage.inProgress)

def settling (conns : List Conn) : ℕ := conns.countP (·.stage.settling)

def Quiet (s : State) : Prop := ∀ conn ∈ s.conns, conn.stage.settling = false

structure Balanced (s : State) : Prop where
  total : s.counters.totalConnections =
    s.counters.activeConnections + s.counters.successfulConnections + s.counters.failedConnections
  active : s.counters.activeConnections = inProgress s.conns

/-- The step ends a counted call with an error, of the socket option or of `handle_stealth`. -/
def endsFailed (conn : Conn) : TcpEvent → Bool
  | .optimize _ (some _) => true
  | .release =>
    match conn.stage with
    | .releasing (.error _) => true
    | _ => false
  | _ => false

def stepEndsFailed (s : State) : Event → Bool
  | .tcp c e => (s.conns[c]?).any (fun conn => endsFailed conn e)
  | _ => false

def weight (p : Stage → Bool) (conn : Conn) : ℕ := if p conn.stage then 1 else 0

/-- A step of one call, in the four counters and in the two counts of calls. -/
structure Tally (conn conn' : Conn) (before after : Counters) (leaked : Bool) : Prop where
  active : after.activeConnections + weight Stage.inProgress conn =
    before.activeConnections + weight Stage.inProgress conn' + if leaked then 1 else 0
  total : before.activeConnections + before.successfulConnections + before.failedConnections +
      after.totalConnections + weight Stage.settling conn' ≤
    after.activeConnections + after.successfulConnections + after.failedConnections +
      before.totalConnections + weight Stage.settling conn
  ended : weight Stage.inProgress conn' + after.successfulConnections + after.failedConnections +
      before.totalConnections + weight Stage.settling conn ≤
    weight Stage.inProgress conn + before.successfulConnections + before.failedConnections +
      after.totalConnections + weight Stage.settling conn'

theorem handleConnection_tally {now : ℕ} {conn conn' : Conn} {ipStats ipStats' : IpStats} {before after : Counters}
    {e : TcpEvent} (hpos : conn.stage.inProgress = true → 0 < before.activeConnections)
    (he : handleConnection h now conn ipStats before e = some (conn', ipStats', after)) :
    Tally conn conn' before after (endsFailed conn e) := by
  obtain ⟨hm, rfl⟩ := handleConnection_effect he
  cases hm with
  | unknown hs | admitted hs | refused hs | optimized hs | nodelay hs =>
    constructor <;> simp [weight, hs, Stage.inProgress, Stage.settling, endsFailed, Counters.after]
  | count hs =>
    refine ⟨?_, ?_, ?_⟩
    · simp [weight, hs, Stage.inProgress, endsFailed, Counters.after]
    · simp only [weight, hs, Stage.settling, Counters.after, ↓reduceIte, Bool.false_eq_true]
      omega
    · simp only [weight, hs, Stage.inProgress, Stage.settling, Counters.after, ↓reduceIte, Bool.false_eq_true]
      omega
  | @forwarded result hs =>
    cases result with
    | ok =>
      refine ⟨?_, ?_, ?_⟩
      · simp [weight, hs, Stage.inProgress, endsFailed, Counters.after]
      · simp only [weight, hs, Stage.settling, Counters.after, ↓reduceIte, Bool.false_eq_true]
        omega
      · simp only [weight, hs, Stage.inProgress, Stage.settling, Counters.after, ↓reduceIte, Bool.false_eq_true]
        omega
    | error e => constructor <;> simp [weight, hs, Stage.inProgress, Stage.settling, endsFailed, Counters.after]
  | @release result hs =>
    have hactive := hpos (by rw [hs]; rfl)
    cases result with
    | ok =>
      refine ⟨?_, ?_, ?_⟩
      · simp only [weight, hs, Stage.inProgress, endsFailed, Counters.after, ↓reduceIte, Bool.false_eq_true]
        omega
      · simp only [weight, hs, Stage.settling, Counters.after, ↓reduceIte, Bool.false_eq_true]
        omega
      · simp only [weight, hs, Stage.inProgress, Stage.settling, Counters.after, ↓reduceIte, Bool.false_eq_true]
        omega
    | error e =>
      refine ⟨?_, ?_, ?_⟩
      · simp only [weight, hs, Stage.inProgress, endsFailed, Counters.after, ↓reduceIte, Bool.false_eq_true]
      · simp only [weight, hs, Stage.settling, Counters.after, ↓reduceIte, Bool.false_eq_true]
        omega
      · simp only [weight, hs, Stage.inProgress, Stage.settling, Counters.after, ↓reduceIte, Bool.false_eq_true]
        omega

/-- The gauge is never below the calls in progress, and the two ends of the balance differ by what it is above. -/
structure Counted (counters : Counters) (conns : List Conn) : Prop where
  active : inProgress conns ≤ counters.activeConnections
  total : counters.totalConnections + settling conns ≤
    counters.activeConnections + counters.successfulConnections + counters.failedConnections
  ended : inProgress conns + counters.successfulConnections + counters.failedConnections ≤
    counters.totalConnections + settling conns

theorem countP_weight (p : Stage → Bool) {conns : List Conn} {c : ConnId} {conn : Conn} (conn' : Conn)
    (hconn : conns[c]? = some conn) :
    (conns.set c conn').countP (fun conn => p conn.stage) + weight p conn =
      conns.countP (fun conn => p conn.stage) + weight p conn' :=
  Lists.countP_set_get (fun conn => p conn.stage) conn' hconn

theorem inProgress_pos {conns : List Conn} {c : ConnId} {conn : Conn} (hconn : conns[c]? = some conn)
    (hp : conn.stage.inProgress = true) : 0 < inProgress conns :=
  List.countP_pos_iff.mpr ⟨conn, List.mem_of_getElem? hconn, hp⟩

theorem Counted.step {s t : State} {e : Event} (h₀ : Counted s.counters s.conns) (he : step h s e = some t) :
    Counted t.counters t.conns ∧ t.counters.activeConnections + inProgress s.conns =
      s.counters.activeConnections + inProgress t.conns + if stepEndsFailed s e then 1 else 0 := by
  cases step_stepped he with
  | advance | udp | forward | expire => exact ⟨h₀, rfl⟩
  | accept =>
    have hprogress : inProgress (s.conns ++ [.start]) = inProgress s.conns := by
      simp [inProgress, Conn.start, Stage.inProgress]
    have hsettling : settling (s.conns ++ [.start]) = settling s.conns := by
      simp [settling, Conn.start, Stage.settling]
    dsimp only
    rw [hprogress]
    exact ⟨⟨by rw [hprogress]; exact h₀.active, by rw [hsettling]; exact h₀.total,
      by rw [hprogress, hsettling]; exact h₀.ended⟩, rfl⟩
  | @tcp c e conn conn' _ _ before moved =>
    have hpos : conn.stage.inProgress = true → 0 < s.counters.activeConnections := by
      intro hp
      exact Nat.lt_of_lt_of_le (inProgress_pos before hp) h₀.active
    obtain ⟨hactive, htotal, hended⟩ := handleConnection_tally hpos moved
    have hfailed : stepEndsFailed s (.tcp c e) = endsFailed conn e := by simp [stepEndsFailed, before]
    have hprogress : inProgress (s.conns.set c conn') + weight Stage.inProgress conn =
        inProgress s.conns + weight Stage.inProgress conn' := countP_weight Stage.inProgress conn' before
    have hsettling : settling (s.conns.set c conn') + weight Stage.settling conn =
        settling s.conns + weight Stage.settling conn' := countP_weight Stage.settling conn' before
    obtain ⟨h₁, h₂, h₃⟩ := h₀
    dsimp only
    rw [hfailed]
    refine ⟨⟨?_, ?_, ?_⟩, ?_⟩
    · omega
    · omega
    · omega
    · omega

theorem balanced_iff {s : State} (h₀ : Counted s.counters s.conns) (hq : Quiet s) :
    Balanced s ↔ s.counters.activeConnections = inProgress s.conns := by
  have hzero : settling s.conns = 0 := List.countP_eq_zero.mpr (by simpa [Quiet] using hq)
  obtain ⟨h₁, h₂, h₃⟩ := h₀
  constructor
  · exact fun hb => hb.active
  · intro hactive
    exact ⟨by omega, hactive⟩

theorem counters_balanced_iff {es : List Event} {s : State} (hrun : run h es = some s) (hq : Quiet s) :
    Balanced s ↔ ∀ u e, Transitions.Occurs (step h) init es u e → stepEndsFailed u e = false := by
  have h₀ : Counted init.counters init.conns := ⟨le_rfl, le_rfl, le_rfl⟩
  have hstep : ∀ u e t, Counted u.counters u.conns → step h u e = some t → Counted t.counters t.conns :=
    fun u e t hu he => (hu.step he).1
  rw [balanced_iff (Transitions.run_invariant (I := fun s => Counted s.counters s.conns) hrun h₀ hstep) hq]
  apply Transitions.run_iff_occurs (A := fun s => s.counters.activeConnections = inProgress s.conns) hrun h₀ rfl hstep
  intro u e t hu he
  obtain ⟨ht, hleak⟩ := hu.step he
  have hactive := hu.active
  cases hfailed : stepEndsFailed u e with
  | false =>
    simp only [hfailed, Bool.false_eq_true, ↓reduceIte] at hleak
    simp only [and_true]
    omega
  | true =>
    simp only [hfailed, ↓reduceIte] at hleak
    simp only [Bool.true_eq_false, and_false, iff_false]
    omega

def openHandler : StealthConnectionHandler := ⟨.new (.v4 127 0 0 1) 80, none, none, none⟩

def overlappingCalls : List Event :=
  [.accept, .accept, .tcp 0 (.check (some (.v4 10 0 0 7))), .tcp 0 .count, .tcp 1 (.check none), .tcp 1 .count,
    .tcp 0 (.optimize (some (.v4 10 0 0 7)) none), .tcp 0 (.forwarded (.ok ())), .tcp 0 .release]

theorem overlapping_calls_balanced : ∃ s, run openHandler overlappingCalls = some s ∧ Quiet s ∧ Balanced s := by
  have hrun : (run openHandler overlappingCalls).map (fun s => s.conns.map (·.stage)) =
      some [.returned (.ok ()), .optimizing] := by decide +kernel
  obtain ⟨s, hs, hstages⟩ := Option.map_eq_some_iff.mp hrun
  have hquiet : Quiet s := by
    intro conn hconn
    have hmem : conn.stage ∈ s.conns.map (·.stage) := List.mem_map_of_mem hconn
    rw [hstages] at hmem
    simp only [List.mem_cons, List.not_mem_nil, or_false] at hmem
    rcases hmem with hstage | hstage <;> rw [hstage] <;> rfl
  refine ⟨s, hs, hquiet, (counters_balanced_iff hs hquiet).mpr ?_⟩
  intro u e ho
  have hfailed : (Transitions.steps (step openHandler) init overlappingCalls).all (fun p => !stepEndsFailed p.1 p.2) := by
    decide +kernel
  simpa using List.all_eq_true.mp hfailed _ ho.mem_steps

def refusedNodelay : List Event :=
  [.accept, .tcp 0 (.check (some (.v4 10 0 0 7))), .tcp 0 .count,
    .tcp 0 (.optimize (some (.v4 10 0 0 7)) (some ⟨"Invalid argument (os error 22)"⟩))]

theorem refused_nodelay_stays_active :
    ∃ s, run openHandler refusedNodelay = some s ∧ s.counters = ⟨1, 1, 0, 0⟩ ∧ inProgress s.conns = 0 ∧ Quiet s ∧
      ¬ Balanced s := by
  have hrun : (run openHandler refusedNodelay).map (fun s => (s.counters, s.conns.map (·.stage))) =
      some (⟨1, 1, 0, 0⟩, [.returned (.error (nodelayFailed ⟨"Invalid argument (os error 22)"⟩))]) := by decide +kernel
  obtain ⟨s, hs, he⟩ := Option.map_eq_some_iff.mp hrun
  obtain ⟨hcounters, hstages⟩ := Prod.mk.inj he
  obtain ⟨conn, hconns, hstage⟩ := List.map_eq_singleton_iff.mp hstages
  have hprogress : inProgress s.conns = 0 := by simp [inProgress, hconns, hstage, Stage.inProgress]
  refine ⟨s, hs, hcounters, hprogress, ?_, ?_⟩
  · simp [Quiet, hconns, hstage, Stage.settling]
  · intro hb
    have hactive := hb.active
    rw [hcounters, hprogress] at hactive
    cases hactive

end GscFq.Stealth
