import GscFq.AddressRoundTrip
import GscFq.StealthSecurity

namespace GscFq.StealthConnectionHandler

variable {h : StealthConnectionHandler}

/-- The spelling an address is printed with. -/
def Canonical (pattern : String) : Prop := ∃ ip : IpAddr, ip.display = pattern

def isWildcard (pattern : String) : Bool := pattern == "0.0.0.0/0" || pattern == "::/0"

theorem canonical_parse_iff (pattern : String) (ip : IpAddr) :
    (Canonical pattern ∧ IpAddr.parse pattern = some ip) ↔ ip.display = pattern := by
  constructor
  · rintro ⟨⟨ip', rfl⟩, hparse⟩
    rw [IpAddr.parse_display] at hparse
    rw [Option.some.inj hparse]
  · rintro rfl
    exact ⟨⟨ip, rfl⟩, IpAddr.parse_display ip⟩

theorem checkLimits_not_notAllowed (now : ℕ) (stats : IpSecurityStats) :
    (h.checkLimits now stats).1 ≠ .error .notAllowed := by
  unfold checkLimits
  split
  · simp
  · split
    · simp
    · dsimp only
      split <;> simp

theorem checkSecurity_notAllowed_iff (now : ℕ) (ip : IpAddr) (ipStats : IpStats) :
    (h.checkSecurity now ip ipStats).1 = .error .notAllowed ↔ h.allows ip = false := by
  unfold checkSecurity
  split
  · simp [*]
  · rename_i hallows
    refine iff_of_false ?_ hallows
    split
    · exact checkLimits_not_notAllowed now _
    · simp

theorem allow_list_matches_iff {patterns : List String} (hp : h.allowIps = some patterns) (now : ℕ) (ip : IpAddr)
    (ipStats : IpStats) :
    (h.checkSecurity now ip ipStats).1 ≠ .error .notAllowed ↔
      ∃ pattern ∈ patterns, (Canonical pattern ∧ IpAddr.parse pattern = some ip) ∨ isWildcard pattern = true := by
  rw [Ne, checkSecurity_notAllowed_iff, Bool.not_eq_false, allows, hp]
  dsimp only
  rw [List.any_eq_true]
  apply exists_congr
  intro pattern
  apply and_congr_right
  intro _
  rw [canonical_parse_iff]
  simp [isWildcard, or_assoc]

def listed (patterns : List String) : StealthConnectionHandler := ⟨.new (.v4 10 0 0 5) 80, some patterns, none, none⟩

def documentationIp : IpAddr := .v6 #v[0x2001, 0xdb8, 0, 0, 0, 0, 0, 1]

theorem printed_spelling_accepted :
    ((listed ["10.0.0.1", "2001:db8::1"]).checkSecurity 0 documentationIp ∅).1 ≠ .error .notAllowed := by
  refine (allow_list_matches_iff rfl 0 documentationIp ∅).mpr ⟨"2001:db8::1", by simp, .inl ?_⟩
  exact (canonical_parse_iff _ _).mpr (by decide +kernel)

theorem upper_case_spelling_rejected :
    IpAddr.parse "2001:DB8::1" = some documentationIp ∧
      ((listed ["2001:DB8::1"]).checkSecurity 0 documentationIp ∅).1 = .error .notAllowed := by
  constructor
  · decide +kernel
  · rw [checkSecurity_notAllowed_iff]
    decide +kernel

end GscFq.StealthConnectionHandler
