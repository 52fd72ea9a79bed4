import GscFq.StealthSlots

namespace GscFq

def IpStats.recent (ipStats : IpStats) (ip : IpAddr) : List ℕ := (ipStats.lookup ip).elim [] (·.recentConnections)

namespace StealthConnectionHandler

variable {h : StealthConnectionHandler} {limit : Float} {ip : IpAddr} {ipStats : IpStats}

/-- The limit as the source compares it, `limit as usize`. -/
def perSecond (limit : Float) : ℕ := limit.toUInt64.toNat

def within (now : ℕ) (t : ℕ) : Bool := decide (now < t + oneSecond)

theorem within_eq (now : ℕ) : (fun t => decide (now - t < oneSecond)) = within now := by
  have hpos : 0 < oneSecond := by decide
  funext t
  apply Bool.eq_iff_iff.mpr
  simp only [within, decide_eq_true_eq]
  omega

theorem recent_insert (ipStats : IpStats) (ip : IpAddr) (stats : IpSecurityStats) (ip' : IpAddr) :
    IpStats.recent (ipStats.insert ip stats) ip' =
      if ip' = ip then stats.recentConnections else ipStats.recent ip' := by
  unfold IpStats.recent
  by_cases hip : ip' = ip
  · subst hip
    simp
  · simp [AList.lookup_insert_ne hip, hip]

theorem recent_insert_same {stats : IpSecurityStats} (hs : stats.recentConnections = ipStats.recent ip) (ip' : IpAddr) :
    IpStats.recent (ipStats.insert ip stats) ip' = ipStats.recent ip' := by
  rw [recent_insert]
  by_cases hip : ip' = ip
  · simp [hip, hs]
  · simp [hip]

theorem recent_getD (ipStats : IpStats) (ip : IpAddr) :
    ((ipStats.lookup ip).getD .new).recentConnections = ipStats.recent ip := by
  unfold IpStats.recent
  cases ipStats.lookup ip <;> rfl

structure Reaches (h : StealthConnectionHandler) (ip : IpAddr) (ipStats : IpStats) : Prop where
  allowed : h.allows ip = true
  below : ∀ m, h.maxConnsPerIp = some m → ipStats.active ip < m

/-- What `check_security` answers and does to the history of each address, under a rate limit. -/
inductive RateCheck (h : StealthConnectionHandler) (limit : Float) (now : ℕ) (ip : IpAddr) (before after : IpStats) :
    Except Refusal Unit → Prop
  | admitted (reaches : Reaches h ip before)
      (below : ((before.recent ip).filter (within now)).length < perSecond limit)
      (pushed : ∀ ip', after.recent ip' =
        if ip' = ip then (before.recent ip).filter (within now) ++ [now] else before.recent ip') :
      RateCheck h limit now ip before after (.ok ())
  | stopped {r : Refusal} (reason : r ≠ .rateLimit) (early : ¬ Reaches h ip before)
      (same : ∀ ip', after.recent ip' = before.recent ip') (active : ∀ ip', after.active ip' = before.active ip') :
      RateCheck h limit now ip before after (.error r)
  | rated (reaches : Reaches h ip before)
      (full : perSecond limit ≤ ((before.recent ip).filter (within now)).length)
      (pruned : ∀ ip', after.recent ip' =
        if ip' = ip then (before.recent ip).filter (within now) else before.recent ip')
      (active : ∀ ip', after.active ip' = before.active ip') :
      RateCheck h limit now ip before after (.error .rateLimit)

theorem checkSecurity_rateCheck (hc : h.cpsLimit = some limit) (now : ℕ) (ip : IpAddr) (ipStats : IpStats) :
    RateCheck h limit now ip ipStats (h.checkSecurity now ip ipStats).2 (h.checkSecurity now ip ipStats).1 := by
  unfold checkSecurity
  cases ha : h.allows ip with
  | false =>
    refine .stopped (by simp) ?_ (fun _ => rfl) (fun _ => rfl)
    intro hr
    rw [hr.allowed] at ha
    cases ha
  | true =>
    simp only [hc, Option.isSome_some, Bool.or_true, ↓reduceIte, Bool.true_eq_false]
    unfold checkLimits
    split
    · rename_i hmax
      obtain ⟨m, hm, hle⟩ := (Option.any_eq_true _ _).mp hmax
      simp only [decide_eq_true_eq, active_getD] at hle
      refine .stopped (by simp) ?_ (recent_insert_same (recent_getD ipStats ip)) (active_insert_same (active_getD ipStats ip))
      intro hr
      exact absurd (hr.below m hm) (Nat.not_lt.mpr hle)
    · rename_i hmax
      have hreaches : Reaches h ip ipStats := by
        refine ⟨ha, ?_⟩
        intro m hm
        simpa [hm, active_getD] using hmax
      rw [hc, within_eq, recent_getD]
      dsimp only
      split
      · rename_i hfull
        exact .rated hreaches hfull (recent_insert _ _ _) (active_insert_same (active_getD ipStats ip))
      · rename_i hbelow
        exact .admitted hreaches (Nat.lt_of_not_le hbelow) (recent_insert _ _ _)

theorem registerDisconnection_recent (ip ip' : IpAddr) (ipStats : IpStats) :
    IpStats.recent (h.registerDisconnection ip ipStats) ip' = ipStats.recent ip' := by
  unfold registerDisconnection
  split
  · split
    · rename_i stats hl
      apply recent_insert_same
      simp [IpStats.recent, hl]
    · rfl
  · rfl

end StealthConnectionHandler

namespace Stealth

open StealthConnectionHandler

variable {h : StealthConnectionHandler} {limit : Float}

def attempt : Event → Option IpAddr
  | .tcp _ (.check peer) => peer
  | .udp addr => some addr.ip
  | _ => none

def admission (h : StealthConnectionHandler) (ip : IpAddr) (p : State × Event) : Option ℕ :=
  if attempt p.2 = some ip then
    match (h.checkSecurity p.1.now ip p.1.ipStats).1 with
    | .ok () => some p.1.now
    | .error _ => none
  else none

/-- The instants at which `check_security` admitted `ip`, over TCP or UDP. -/
def admissions (h : StealthConnectionHandler) (ip : IpAddr) (es : List Event) : List ℕ :=
  (Transitions.steps (step h) init es).filterMap (admission h ip)

theorem step_attempt {s t : State} {e : Event} {ip : IpAddr} (he : step h s e = some t) (ha : attempt e = some ip) :
    t.ipStats = (h.checkSecurity s.now ip s.ipStats).2 ∧ t.now = s.now := by
  cases step_stepped he with
  | advance | accept | forward | expire => cases ha
  | udp =>
    cases ha
    exact ⟨rfl, rfl⟩
  | tcp _ moved =>
    cases handleConnection_move moved with
    | admitted _ check | refused _ check =>
      cases ha
      exact ⟨(congrArg Prod.snd check).symm, rfl⟩
    | unknown | count | optimized | nodelay | forwarded | release => cases ha

theorem step_without_attempt {s t : State} {e : Event} (he : step h s e = some t) (ha : attempt e = none) :
    (∀ ip, t.ipStats.recent ip = s.ipStats.recent ip) ∧ s.now ≤ t.now := by
  cases step_stepped he with
  | advance => exact ⟨fun _ => rfl, Nat.le_add_right _ _⟩
  | accept | forward | expire => exact ⟨fun _ => rfl, le_rfl⟩
  | udp => cases ha
  | @tcp _ _ conn _ _ _ _ moved =>
    refine ⟨?_, le_rfl⟩
    intro ip
    cases handleConnection_move moved with
    | unknown | count | optimized | nodelay | forwarded => rfl
    | admitted | refused => cases ha
    | release =>
      dsimp only
      cases conn.again with
      | none => rfl
      | some peer => exact registerDisconnection_recent peer ip s.ipStats

theorem admissions_snoc {es : List Event} {u : State} (hu : run h es = some u) (ip : IpAddr) (e : Event) :
    admissions h ip (es ++ [e]) = admissions h ip es ++ (admission h ip (u, e)).toList := by
  rw [admissions, Transitions.steps_snoc e hu, List.filterMap_append]
  congr 1

theorem admission_eq_none {ip : IpAddr} {u : State} {e : Event} (ha : attempt e ≠ some ip) :
    admission h ip (u, e) = none := if_neg ha

theorem filter_within {m n : ℕ} (hmn : m ≤ n) (l : List ℕ) :
    (l.filter (within m)).filter (within n) = l.filter (within n) := by
  rw [List.filter_filter]
  apply List.filter_congr
  intro a _
  apply Bool.eq_iff_iff.mpr
  simp only [within, Bool.and_eq_true, decide_eq_true_eq]
  omega

def inWindow (t : ℕ) (a : ℕ) : Bool := decide (a ≤ t) && within t a

/-- The stored history has every admission that can still be in a window, and no window has more than the limit. -/
structure Kept (h : StealthConnectionHandler) (limit : Float) (ip : IpAddr) (es : List Event) (s : State) : Prop where
  past : ∀ a ∈ admissions h ip es, a ≤ s.now
  kept : ∀ now, s.now ≤ now → (s.ipStats.recent ip).filter (within now) = (admissions h ip es).filter (within now)
  window : ∀ t, (admissions h ip es).countP (inWindow t) ≤ perSecond limit

theorem Kept.same {ip : IpAddr} {es : List Event} {u t : State} {e : Event} (h₀ : Kept h limit ip es u)
    (hadm : admissions h ip (es ++ [e]) = admissions h ip es) (hnow : u.now ≤ t.now)
    (hrecent : ∀ now, u.now ≤ now →
      (t.ipStats.recent ip).filter (within now) = (u.ipStats.recent ip).filter (within now)) :
    Kept h limit ip (es ++ [e]) t := by
  refine ⟨?_, ?_, ?_⟩
  · intro a ha
    rw [hadm] at ha
    exact (h₀.past a ha).trans hnow
  · intro now hle
    rw [hadm, hrecent now (hnow.trans hle)]
    exact h₀.kept now (hnow.trans hle)
  · rw [hadm]
    exact h₀.window

theorem window_push {l : List ℕ} {L m : ℕ} (hpast : ∀ a ∈ l, a ≤ m) (hwindow : ∀ t, l.countP (inWindow t) ≤ L)
    (hbelow : (l.filter (within m)).length < L) (t : ℕ) : (l ++ [m]).countP (inWindow t) ≤ L := by
  rw [List.countP_append, List.countP_singleton]
  split
  · rename_i hm
    have hle : l.countP (inWindow t) ≤ (l.filter (within m)).length := by
      rw [← List.countP_eq_length_filter]
      apply List.countP_mono_left
      intro a ha hin
      have ham := hpast a ha
      simp only [inWindow, within, Bool.and_eq_true, decide_eq_true_eq] at hm hin ⊢
      omega
    omega
  · exact hwindow t

theorem Kept.push {ip : IpAddr} {es : List Event} {u t : State} {e : Event} (h₀ : Kept h limit ip es u)
    (hadm : admissions h ip (es ++ [e]) = admissions h ip es ++ [u.now]) (hnow : t.now = u.now)
    (hbelow : ((u.ipStats.recent ip).filter (within u.now)).length < perSecond limit)
    (hrecent : t.ipStats.recent ip = (u.ipStats.recent ip).filter (within u.now) ++ [u.now]) :
    Kept h limit ip (es ++ [e]) t := by
  rw [h₀.kept u.now le_rfl] at hbelow
  refine ⟨?_, ?_, ?_⟩
  · intro a ha
    rw [hadm, List.mem_append, List.mem_singleton] at ha
    rw [hnow]
    rcases ha with ha | rfl
    · exact h₀.past a ha
    · exact le_rfl
  · intro now hle
    rw [hnow] at hle
    rw [hadm, hrecent, List.filter_append, List.filter_append, filter_within hle, h₀.kept now hle]
  · rw [hadm]
    exact window_push h₀.past h₀.window hbelow

theorem Kept.step (hc : h.cpsLimit = some limit) {ip : IpAddr} {es : List Event} {u t : State} {e : Event}
    (hu : run h es = some u) (h₀ : Kept h limit ip es u) (he : step h u e = some t) : Kept h limit ip (es ++ [e]) t := by
  have hsnoc := admissions_snoc hu ip e
  cases ha : attempt e with
  | none =>
    obtain ⟨hrecent, hnow⟩ := step_without_attempt he ha
    rw [admission_eq_none (by simp [ha]), Option.toList_none, List.append_nil] at hsnoc
    exact h₀.same hsnoc hnow (fun now _ => by rw [hrecent ip])
  | some asked =>
    obtain ⟨hstats, hnow⟩ := step_attempt he ha
    have hcheck := checkSecurity_rateCheck hc u.now asked u.ipStats
    obtain ⟨verdict, hverdict⟩ : ∃ verdict, (h.checkSecurity u.now asked u.ipStats).1 = verdict := ⟨_, rfl⟩
    rw [← hstats, hverdict] at hcheck
    by_cases hip : asked = ip
    · subst hip
      have hadm : admission h asked (u, e) =
          match (h.checkSecurity u.now asked u.ipStats).1 with
          | .ok () => some u.now
          | .error _ => none := if_pos ha
      rw [hadm] at hsnoc
      rw [hverdict] at hsnoc
      cases hcheck with
      | admitted _ below pushed => exact h₀.push hsnoc hnow below (by rw [pushed, if_pos rfl])
      | stopped _ _ same =>
        rw [Option.toList_none, List.append_nil] at hsnoc
        exact h₀.same hsnoc hnow.ge (fun now _ => by rw [same])
      | rated _ _ pruned =>
        rw [Option.toList_none, List.append_nil] at hsnoc
        exact h₀.same hsnoc hnow.ge (fun now hle => by rw [pruned, if_pos rfl, filter_within hle])
    · rw [admission_eq_none (by simp [ha, hip]), Option.toList_none, List.append_nil] at hsnoc
      refine h₀.same hsnoc hnow.ge (fun now _ => ?_)
      cases hcheck with
      | admitted _ _ pushed => rw [pushed, if_neg (Ne.symm hip)]
      | stopped _ _ same => rw [same]
      | rated _ _ pruned => rw [pruned, if_neg (Ne.symm hip)]

theorem run_kept (hc : h.cpsLimit = some limit) {es : List Event} {s : State} (hrun : run h es = some s) (ip : IpAddr) :
    Kept h limit ip es s := by
  apply Transitions.run_history hrun
  · refine ⟨?_, fun _ _ => rfl, fun _ => Nat.zero_le _⟩
    intro a ha
    cases ha
  · intro es u e t hu h₀ he
    exact h₀.step hc hu he

/-- The rate limit on `ip` over the run `es` and at the state `s` it leads to, where the next attempt would be made. -/
structure RateExact (h : StealthConnectionHandler) (L : ℕ) (ip : IpAddr) (es : List Event) (s : State) : Prop where
  window : ∀ t, (admissions h ip es).countP (fun a => decide (a ≤ t) && decide (t < a + oneSecond)) ≤ L
  refused : Reaches h ip s.ipStats →
    ((h.checkSecurity s.now ip s.ipStats).1 = .error .rateLimit ↔
      (admissions h ip es).countP (fun a => decide (s.now < a + oneSecond)) = L)
  unchanged : ∀ r after, h.checkSecurity s.now ip s.ipStats = (.error r, after) →
    ∀ ip', after.active ip' = s.ipStats.active ip' ∧
      ∀ now, s.now ≤ now → (after.recent ip').filter (fun a => decide (now < a + oneSecond)) =
        (s.ipStats.recent ip').filter (fun a => decide (now < a + oneSecond))

theorem rate_limit_exact (hc : h.cpsLimit = some limit) {es : List Event} {s : State} (hrun : run h es = some s)
    (ip : IpAddr) : RateExact h limit.toUInt64.toNat ip es s := by
  have hkept := run_kept hc hrun ip
  have hcheck := checkSecurity_rateCheck hc s.now ip s.ipStats
  refine ⟨hkept.window, ?_, ?_⟩
  · intro hreaches
    have hcount : (admissions h ip es).countP (within s.now) = ((s.ipStats.recent ip).filter (within s.now)).length := by
      rw [hkept.kept s.now le_rfl, List.countP_eq_length_filter]
    have hle : (admissions h ip es).countP (within s.now) ≤ perSecond limit := by
      have hwindow := hkept.window s.now
      rwa [List.countP_congr (q := within s.now)] at hwindow
      intro a ha
      simp [inWindow, hkept.past a ha]
    change _ ↔ (admissions h ip es).countP (within s.now) = perSecond limit
    generalize (h.checkSecurity s.now ip s.ipStats).1 = verdict at hcheck
    cases hcheck with
    | admitted _ below =>
      simp only [reduceCtorEq, false_iff]
      omega
    | stopped _ early => exact absurd hreaches early
    | rated _ full =>
      simp only [true_iff]
      omega
  · intro r after hr ip'
    rw [hr] at hcheck
    cases hcheck with
    | stopped _ _ same active => exact ⟨active ip', fun now _ => by rw [same]⟩
    | rated _ _ pruned active =>
      refine ⟨active ip', fun now hle => ?_⟩
      rw [pruned]
      by_cases hip : ip' = ip
      · rw [if_pos hip, hip]
        exact filter_within hle _
      · rw [if_neg hip]

def twoPerSecond : StealthConnectionHandler := ⟨.new (.v4 10 0 0 5) 80, none, none, some 2.0⟩

def burst : List Event :=
  [.udp (.new (.v4 192 0 2 7) 5000), .advance 400000000, .udp (.new (.v4 192 0 2 7) 5001), .accept,
    .udp (.new (.v4 192 0 2 7) 5002), .advance 700000000]

theorem burst_limited :
    ∃ s, run twoPerSecond burst = some s ∧ s.now = 1100000000 ∧
      RateExact twoPerSecond (Float.toUInt64 2.0).toNat (.v4 192 0 2 7) burst s :=
  ⟨_, rfl, rfl, rate_limit_exact rfl rfl _⟩

end Stealth

end GscFq
