import GscFq.ClientHandshake
import GscFq.Lists
import GscFq.ValidateTwice

namespace GscFq

open ReverseProxyClient

theorem parseProxyConfig_ok {r : ReverseProxySection} {c : ReverseProxyConfig} (h : parseProxyConfig r = .ok c) :
    r.getServerPort = .ok c.serverPort ∧ r.getLocalPort = .ok c.localPort ∧ r.getLocalHost = some c.localHost := by
  have hhost : ∃ host, r.getLocalHost = some host := by
    unfold ReverseProxySection.getLocalHost
    split
    · split <;> exact ⟨_, rfl⟩
    · exact ⟨_, rfl⟩
  obtain ⟨host, hhost⟩ := hhost
  unfold parseProxyConfig at h
  cases hs : r.getServerPort with
  | error e => simp [hs] at h
  | ok serverPort =>
    cases hl : r.getLocalPort with
    | error e => simp [hs, hl] at h
    | ok localPort =>
      simp only [hs, hl, hhost, Option.getD_some, Except.ok.injEq] at h
      subst h
      exact ⟨rfl, rfl, hhost⟩

theorem ReverseProxySection.WellFormed.parses {r : ReverseProxySection} (h : r.WellFormed) :
    ∃ c, parseProxyConfig r = .ok c := by
  obtain ⟨⟨serverPort, hs, -⟩, ⟨localPort, hl, -⟩, -⟩ := h
  simp only [parseProxyConfig, hs, hl]
  exact ⟨_, rfl⟩

theorem validate_ok {config accepted : ConfigFile} {warnings : List String}
    (h : config.validate = (accepted, .ok warnings)) :
    ∃ proxies, parseProxyConfigs accepted = .ok proxies ∧ (proxies.map (·.serverPort)).Nodup := by
  obtain ⟨hwell, -⟩ := validate_wellFormed h
  obtain ⟨proxies, hall⟩ := Lists.exists_forall₂ (fun r hr => (hwell.reverseProxies r hr).parses)
  refine ⟨proxies, Lists.mapM_of_forall₂ hall, List.pairwise_map.mpr ?_⟩
  apply Lists.pairwise_of_forall₂ hall hwell.serverPorts
  intro r c r' c' hc hc' hne heq
  exact hne (by rw [(parseProxyConfig_ok hc).1, (parseProxyConfig_ok hc').1, heq])

end GscFq
