import GscFq.Errors
import GscFq.IpAddr
import Mathlib.Data.List.AList

namespace GscFq

structure StealthConnectionHandler where
  remoteAddr : SocketAddr
  allowIps : Option (List String)
  maxConnsPerIp : Option ℕ
  cpsLimit : Option Float

/-- `recentConnections` are instants of the monotonic clock, in nanoseconds. -/
structure IpSecurityStats where
  activeConnections : ℕ
  recentConnections : List ℕ
  deriving DecidableEq, Repr

def IpSecurityStats.new : IpSecurityStats := ⟨0, []⟩

abbrev IpStats := AList (fun _ : IpAddr => IpSecurityStats)

inductive Refusal where
  | notAllowed
  | maxConnections
  | rateLimit
  deriving DecidableEq, Repr

def forwardingFailed (reason : String) : AppError := .proxy (.forwardingFailed reason)

def Refusal.error (ip : IpAddr) : Refusal → AppError
  | .notAllowed => forwardingFailed ("IP " ++ ip.display ++ " not in allow list")
  | .maxConnections => forwardingFailed ("Max connections per IP reached for " ++ ip.display)
  | .rateLimit => forwardingFailed ("Connection rate limit exceeded for " ++ ip.display)

def oneSecond : ℕ := 1000000000

namespace StealthConnectionHandler

def allows (h : StealthConnectionHandler) (ip : IpAddr) : Bool :=
  match h.allowIps with
  | none => true
  | some allowed => allowed.any (fun pattern => ip.display == pattern || pattern == "0.0.0.0/0" || pattern == "::/0")

/-- The part of `check_security` under the lock: the connection limit, then the rate limit, then the
count. A refused client is not counted, but the instants older than a second are dropped. -/
def checkLimits (h : StealthConnectionHandler) (now : ℕ) (stats : IpSecurityStats) : Except Refusal Unit × IpSecurityStats :=
  if h.maxConnsPerIp.any (fun maxActive => decide (maxActive ≤ stats.activeConnections)) then
    (.error .maxConnections, stats)
  else
    match h.cpsLimit with
    | none => (.ok (), { stats with activeConnections := stats.activeConnections + 1 })
    | some limit =>
      let recent := stats.recentConnections.filter (fun t => decide (now - t < oneSecond))
      if limit.toUInt64.toNat ≤ recent.length then (.error .rateLimit, { stats with recentConnections := recent })
      else (.ok (), ⟨stats.activeConnections + 1, recent ++ [now]⟩)

def checkSecurity (h : StealthConnectionHandler) (now : ℕ) (ip : IpAddr) (ipStats : IpStats) :
    Except Refusal Unit × IpStats :=
  if h.allows ip = false then (.error .notAllowed, ipStats)
  else if h.maxConnsPerIp.isSome || h.cpsLimit.isSome then
    let p := h.checkLimits now ((ipStats.lookup ip).getD .new)
    (p.1, ipStats.insert ip p.2)
  else (.ok (), ipStats)

def registerDisconnection (h : StealthConnectionHandler) (ip : IpAddr) (ipStats : IpStats) : IpStats :=
  if h.maxConnsPerIp.isSome then
    match ipStats.lookup ip with
    | some stats => ipStats.insert ip { stats with activeConnections := stats.activeConnections - 1 }
    | none => ipStats
  else ipStats

end StealthConnectionHandler

def IpStats.active (ipStats : IpStats) (ip : IpAddr) : ℕ := (ipStats.lookup ip).elim 0 (·.activeConnections)

namespace StealthConnectionHandler

variable {h : StealthConnectionHandler} {now m : ℕ} {ip : IpAddr} {ipStats : IpStats}

theorem active_insert (ipStats : IpStats) (ip : IpAddr) (stats : IpSecurityStats) (ip' : IpAddr) :
    IpStats.active (ipStats.insert ip stats) ip' =
      if ip' = ip then stats.activeConnections else ipStats.active ip' := by
  unfold IpStats.active
  by_cases hip : ip' = ip
  · subst hip
    simp
  · simp [AList.lookup_insert_ne hip, hip]

theorem active_insert_same {stats : IpSecurityStats} (hs : stats.activeConnections = ipStats.active ip) (ip' : IpAddr) :
    IpStats.active (ipStats.insert ip stats) ip' = ipStats.active ip' := by
  rw [active_insert]
  by_cases hip : ip' = ip
  · simp [hip, hs]
  · simp [hip]

theorem active_getD (ipStats : IpStats) (ip : IpAddr) :
    ((ipStats.lookup ip).getD .new).activeConnections = ipStats.active ip := by
  unfold IpStats.active
  cases ipStats.lookup ip <;> rfl

theorem checkLimits_cases (hm : h.maxConnsPerIp = some m) (now : ℕ) (stats : IpSecurityStats) :
    (m ≤ stats.activeConnections ∧ h.checkLimits now stats = (.error .maxConnections, stats)) ∨
    (stats.activeConnections < m ∧ ∃ recent,
      h.checkLimits now stats = (.ok (), ⟨stats.activeConnections + 1, recent⟩) ∨
      h.checkLimits now stats = (.error .rateLimit, ⟨stats.activeConnections, recent⟩)) := by
  unfold checkLimits
  by_cases hlim : m ≤ stats.activeConnections
  · simp [hm, hlim]
  · have hlt := Nat.not_le.mp hlim
    refine Or.inr ⟨hlt, ?_⟩
    simp only [hm, Option.any_some, decide_eq_true_eq, hlim, ↓reduceIte]
    cases hc : h.cpsLimit with
    | none => exact ⟨_, Or.inl rfl⟩
    | some limit =>
      simp only
      split
      · exact ⟨_, Or.inr rfl⟩
      · exact ⟨_, Or.inl rfl⟩

/-- What `check_security` answers and does to the slots, when they are limited to `m`. -/
inductive Check (h : StealthConnectionHandler) (m : ℕ) (ip : IpAddr) (before after : IpStats) :
    Except Refusal Unit → Prop where
  | admitted (allowed : h.allows ip = true) (below : before.active ip < m)
      (counted : ∀ ip', after.active ip' = before.active ip' + if ip' = ip then 1 else 0) :
      Check h m ip before after (.ok ())
  | notAllowed (refused : h.allows ip = false) (same : ∀ ip', after.active ip' = before.active ip') :
      Check h m ip before after (.error .notAllowed)
  | limited (allowed : h.allows ip = true) (reached : m ≤ before.active ip)
      (same : ∀ ip', after.active ip' = before.active ip') : Check h m ip before after (.error .maxConnections)
  | rated (allowed : h.allows ip = true) (below : before.active ip < m)
      (same : ∀ ip', after.active ip' = before.active ip') : Check h m ip before after (.error .rateLimit)

theorem checkSecurity_check (hm : h.maxConnsPerIp = some m) (now : ℕ) (ip : IpAddr) (ipStats : IpStats) :
    Check h m ip ipStats (h.checkSecurity now ip ipStats).2 (h.checkSecurity now ip ipStats).1 := by
  unfold checkSecurity
  cases ha : h.allows ip with
  | false => exact .notAllowed ha (fun _ => rfl)
  | true =>
    simp only [hm, Option.isSome_some, Bool.true_or, ↓reduceIte, Bool.true_eq_false]
    rcases checkLimits_cases hm now ((ipStats.lookup ip).getD .new) with ⟨hle, he⟩ | ⟨hlt, recent, he | he⟩
    · rw [active_getD] at hle
      rw [he]
      exact .limited ha hle (active_insert_same (active_getD ipStats ip))
    · rw [active_getD] at hlt he
      rw [he]
      refine .admitted ha hlt ?_
      intro ip'
      rw [active_insert]
      by_cases hip : ip' = ip
      · simp [hip]
      · simp [hip]
    · rw [active_getD] at hlt he
      rw [he]
      exact .rated ha hlt (active_insert_same rfl)

theorem Check.counted {before after : IpStats} (hc : Check h m ip before after (.ok ())) (ip' : IpAddr) :
    after.active ip' = before.active ip' + if ip' = ip then 1 else 0 := by
  cases hc with
  | admitted _ _ counted => exact counted ip'

theorem Check.same {before after : IpStats} {r : Refusal} (hc : Check h m ip before after (.error r)) (ip' : IpAddr) :
    after.active ip' = before.active ip' := by
  cases hc with
  | notAllowed _ same | limited _ _ same | rated _ _ same => exact same ip'

theorem Check.limit {before after : IpStats} {r : Except Refusal Unit} (hc : Check h m ip before after r)
    (hle : ∀ ip', before.active ip' ≤ m) (ip' : IpAddr) : after.active ip' ≤ m := by
  cases hc with
  | admitted _ below counted =>
    rw [counted ip']
    by_cases hip : ip' = ip
    · simpa [hip] using below
    · simpa [hip] using hle ip'
  | notAllowed _ same | limited _ _ same | rated _ _ same => exact (same ip').symm ▸ hle ip'

theorem Check.mono {before after : IpStats} {r : Except Refusal Unit} (hc : Check h m ip before after r)
    (ip' : IpAddr) : before.active ip' ≤ after.active ip' := by
  cases hc with
  | admitted _ _ counted => exact counted ip' ▸ Nat.le_add_right _ _
  | notAllowed _ same | limited _ _ same | rated _ _ same => exact (same ip').ge

theorem checkSecurity_limited_iff (hm : h.maxConnsPerIp = some m) (now : ℕ) (ip : IpAddr) (ipStats : IpStats) :
    (h.checkSecurity now ip ipStats).1 = .error .maxConnections ↔ h.allows ip = true ∧ m ≤ ipStats.active ip := by
  have hcheck := checkSecurity_check hm now ip ipStats
  generalize (h.checkSecurity now ip ipStats).1 = r at hcheck
  cases hcheck with
  | admitted _ below | rated _ below => simp [below]
  | notAllowed refused => simp [refused]
  | limited allowed reached => simp [allowed, reached]

theorem registerDisconnection_active (hm : h.maxConnsPerIp = some m) (ip ip' : IpAddr) (ipStats : IpStats) :
    IpStats.active (h.registerDisconnection ip ipStats) ip' = ipStats.active ip' - if ip' = ip then 1 else 0 := by
  unfold registerDisconnection
  cases hl : ipStats.lookup ip with
  | none =>
    have hzero : ipStats.active ip = 0 := by simp [IpStats.active, hl]
    by_cases hip : ip' = ip
    · simp [hip, hzero]
    · simp [hip]
  | some stats =>
    have hact : stats.activeConnections = ipStats.active ip := by simp [IpStats.active, hl]
    simp only [hm, Option.isSome_some, ↓reduceIte, active_insert]
    by_cases hip : ip' = ip
    · simp [hip, hact]
    · simp [hip]

end StealthConnectionHandler

end GscFq
