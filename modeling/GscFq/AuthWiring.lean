import GscFq.Runtime
import GscFq.TokenRule

namespace GscFq.RuntimeManager

open ReverseProxyServer

/-- What the section asks of a hello: a token that is allowed, or is that of the environment, and a
code that is accepted for the secret when there is one. -/
def Authorized (X : Externals) (env : Option String) (sec : ReverseProxyServerSection) (now : UInt64)
    (hello : ClientHello) : Prop :=
  (hello.token ∈ sec.allowedTokens ∨ env = some hello.token) ∧
    ∀ secret, sec.totpSecret = some secret → ∃ code, hello.totpCode = some code ∧
      (Totp.ofSecret X.toTotpPrimitives secret).verify X.toTotpPrimitives now code = true

def Enforced (X : Externals) (env : Option String) (sec : ReverseProxyServerSection)
    (server : ReverseProxyServer) : Prop :=
  ∀ now stamp addr broken hello, server.AnswersOk X now stamp addr broken hello → Authorized X env sec now hello

theorem configured_auth_enforced_iff {X : Externals} (hx : X.Lawful) (env : Option String) (config : ConfigFile)
    {sec : ReverseProxyServerSection} {server : ReverseProxyServer} (hsec : config.reverseProxyServer = some sec)
    (hrun : Service.reverseServer server ∈ (run env config).services) :
    Enforced X env sec server ↔ env ≠ none ∧ sec.totpSecret = none := by
  obtain ⟨ip, sec', hsec', rfl⟩ := run_reverseServer hrun
  obtain rfl : sec' = sec := Option.some.inj (hsec'.symm.trans hsec)
  constructor
  · intro henf
    have henv : env ≠ none := by
      rintro rfl
      obtain ⟨token, hfresh⟩ := exists_fresh_token sec'.allowedTokens
      obtain ⟨hello, rfl, -, hok⟩ := answersOk_of_token hx (.new none ip sec'.port) token rfl rfl none 0 0
        (.new ip 0)
      exact (henf 0 0 _ none hello hok).1.elim hfresh (fun h => by cases h)
    refine ⟨henv, ?_⟩
    obtain ⟨token, rfl⟩ := Option.ne_none_iff_exists'.mp henv
    by_contra hsecret
    obtain ⟨secret, hs⟩ := Option.ne_none_iff_exists'.mp hsecret
    obtain ⟨hello, rfl, hcode, hok⟩ := answersOk_of_token hx (.new (some token) ip sec'.port) token
      (by simp [tokenValid, ReverseProxyServer.new]) rfl none 0 0 (.new ip 0)
    obtain ⟨code, hc, -⟩ := (henf 0 0 _ none hello hok).2 secret hs
    rw [hcode] at hc
    cases hc
  · rintro ⟨henv, hnone⟩ now stamp addr broken hello hok
    obtain ⟨token, rfl⟩ := Option.ne_none_iff_exists'.mp henv
    have htok := (firstFailing_eq_none.mp hok.passes).2.1
    simp only [tokenValid, ReverseProxyServer.new, Bool.or_eq_true, beq_iff_eq, List.contains_nil,
      Bool.false_eq_true, or_false] at htok
    exact ⟨Or.inr (by rw [htok]), fun secret hs => by rw [hnone] at hs; cases hs⟩

def manualSection (totpSecret : Option String) : ReverseProxyServerSection :=
  ⟨9001, ["my-secret-token"], totpSecret⟩

def manualConfig (totpSecret : Option String) : ConfigFile :=
  ⟨none, [], none, none, [], some (manualSection totpSecret), none⟩

theorem auth_enforced_from_environment :
    Enforced Bincode.sample (some "my-secret-token") (manualSection none)
      (.new (some "my-secret-token") (.v4 0 0 0 0) 9001) :=
  (configured_auth_enforced_iff (Bincode.externals_lawful _ _) (some "my-secret-token") (manualConfig none) rfl
    (List.mem_singleton_self _)).mpr ⟨by decide, rfl⟩

theorem configured_token_ignored :
    (run none (manualConfig (some "JBSWY3DPEHPK3PXP"))).services =
        [.reverseServer (.new none (.v4 0 0 0 0) 9001)] ∧
      ReverseProxyServer.AnswersOk Bincode.sample (.new none (.v4 0 0 0 0) 9001) 0 0
        (.new (.v4 127 0 0 1) 50000) none (honestHello Bincode.sample "wrong-token" none Bincode.sampleProxies
          (Bincode.jsonProxies Bincode.sampleProxies)) ∧
      ¬ Authorized Bincode.sample none (manualSection (some "JBSWY3DPEHPK3PXP")) 0
        (honestHello Bincode.sample "wrong-token" none Bincode.sampleProxies
          (Bincode.jsonProxies Bincode.sampleProxies)) := by
  refine ⟨rfl, ⟨okReply 0 (.new (.v4 127 0 0 1) 50000) Bincode.sampleProxies, by decide, rfl⟩, ?_⟩
  rintro ⟨htoken, -⟩
  simp [honestHello, manualSection] at htoken

end GscFq.RuntimeManager
