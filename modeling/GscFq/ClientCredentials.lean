import GscFq.LibraryFormats
import GscFq.Runtime

namespace GscFq.RuntimeManager

open ReverseProxyClient

def PresentsCredentials (X : Externals) (sec : ReverseProxyClientSection) (client : ReverseProxyClient) : Prop :=
  ∀ now hello, client.Sends X now hello → (∀ token, sec.token = some token → hello.token = token) ∧
    ∀ secret, sec.totpSecret = some secret →
      hello.totpCode = some ((Totp.ofSecret X.toTotpPrimitives secret).generate X.toTotpPrimitives now)

/-- The token `new` falls back to: the first one that the server section of the same file allows. -/
def fallbackToken (config : ConfigFile) : String :=
  ((config.reverseProxyServer.bind (fun s => s.allowedTokens.head?)).getD "")

theorem makeHello_credentials {X : Externals} {addr : SocketAddr} {config : ConfigFile}
    {sec : ReverseProxyClientSection} (hsec : config.reverseProxyClient = some sec) {now : UInt64}
    {proxies : List ReverseProxyConfig} {hello : ClientHello}
    (h : (ReverseProxyClient.new none addr config).makeHello X now proxies = .ok hello) :
    hello.token = fallbackToken config ∧ hello.totpCode = sec.totpSecret.map (fun secret =>
      (Totp.ofSecret X.toTotpPrimitives secret).generate X.toTotpPrimitives now) := by
  unfold makeHello at h
  split at h
  · cases h
  · cases h
    simp [ReverseProxyClient.new, fallbackToken, hsec]

theorem client_credentials_iff {X : Externals} (hx : X.Lawful) (config : ConfigFile)
    {sec : ReverseProxyClientSection} {client : ReverseProxyClient} (hsec : config.reverseProxyClient = some sec)
    (hrun : Service.reverseClient client ∈ (run none config).services) :
    PresentsCredentials X sec client ↔
      (∀ proxies, parseProxyConfigs config = .ok proxies → proxies = []) ∨ sec.token = none ∨
        sec.token = some (fallbackToken config) := by
  obtain ⟨addr, rfl⟩ := run_reverseClient hrun
  constructor
  · intro hpresents
    by_contra hcond
    push Not at hcond
    obtain ⟨⟨proxies, hp, hne⟩, hsome, hother⟩ := hcond
    obtain ⟨token, htoken⟩ := Option.ne_none_iff_exists'.mp hsome
    obtain ⟨json, hj⟩ := hx.json_ok proxies
    have hhello : ∃ hello, (ReverseProxyClient.new none addr config).makeHello X 0 proxies = .ok hello := by
      simp [makeHello, hj]
    obtain ⟨hello, hhello⟩ := hhello
    have hsent := (hpresents 0 hello ⟨proxies, hp, hne, hhello⟩).1 token htoken
    rw [(makeHello_credentials hsec hhello).1] at hsent
    exact hother (hsent ▸ htoken)
  · rintro hcond now hello ⟨proxies, hp, hne, hhello⟩
    obtain ⟨htok, hcode⟩ := makeHello_credentials hsec hhello
    constructor
    · intro token htoken
      rcases hcond with hempty | hnone | hsame
      · exact absurd (hempty proxies hp) hne
      · rw [hnone] at htoken
        cases htoken
      · rw [hsame] at htoken
        exact htok.trans (Option.some.inj htoken)
    · intro secret hs
      rw [hcode, hs]
      rfl

def clientConfig (allowed : List String) : ConfigFile :=
  ⟨none, [], none, none, [⟨"8080", "3000", none⟩], some ⟨9001, allowed, none⟩,
    some ⟨"10.0.0.1:9001", some "client-token", some "JBSWY3DPEHPK3PXP"⟩⟩

def clientOf (allowed : List String) : ReverseProxyClient := .new none (.new (.v4 10 0 0 1) 9001) (clientConfig allowed)

theorem client_credentials_shared :
    PresentsCredentials Bincode.sample ⟨"10.0.0.1:9001", some "client-token", some "JBSWY3DPEHPK3PXP"⟩
      (clientOf ["client-token"]) :=
  (client_credentials_iff (Bincode.externals_lawful _ _) (clientConfig ["client-token"]) rfl
    (List.mem_cons_of_mem _ (List.mem_singleton_self _))).mpr (Or.inr (Or.inr rfl))

theorem client_token_ignored :
    Service.reverseClient (clientOf ["server-token"]) ∈ (run none (clientConfig ["server-token"])).services ∧
      ∃ hello, (clientOf ["server-token"]).Sends Bincode.sample 0 hello ∧ hello.token = "server-token" ∧
        ¬ PresentsCredentials Bincode.sample ⟨"10.0.0.1:9001", some "client-token", some "JBSWY3DPEHPK3PXP"⟩
          (clientOf ["server-token"]) := by
  refine ⟨List.mem_cons_of_mem _ (List.mem_singleton_self _), _,
    ⟨Bincode.sampleProxies, rfl, by decide, rfl⟩, rfl, ?_⟩
  intro hpresents
  have htoken := (hpresents 0 _ ⟨Bincode.sampleProxies, rfl, by decide, rfl⟩).1 "client-token" rfl
  revert htoken
  decide

end GscFq.RuntimeManager
