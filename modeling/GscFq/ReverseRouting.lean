import GscFq.ConnectionFates
import GscFq.ValidateSpec

namespace GscFq.Routing

open ByteStream HandleClient GscFq.Lists Tunnel ClientTunnels ReverseProxyClient

variable {configs : List ReverseProxyConfig}

theorem sent_header {t : TunnelStream} {c : ConnId} {more : Bytes} {msgType reserved hi lo : UInt8}
    (hbody : t.request.body = .tcp c) (h : Sent t (msgType :: reserved :: hi :: lo :: more)) :
    msgType = 0x01 ∧ ofBe16 hi lo = t.request.targetPort := by
  have hframe : openFrame t.request = tcpHeader t.request.targetPort := by simp [openFrame, hbody]
  unfold Sent at h
  rw [hframe] at h
  split at h
  · cases h
  · obtain ⟨data, hd⟩ := h
    simp only [tcpHeader, List.cons_append, List.cons.injEq] at hd
    obtain ⟨rfl, -, rfl, rfl, -⟩ := hd
    exact ⟨rfl, ofBe16_be16 _⟩
  · obtain ⟨n, hn, hd⟩ := h
    have hlen := congrArg List.length hd
    simp only [tcpHeader, List.length_cons, List.length_take, List.length_nil] at hlen hn
    omega

theorem StreamOk.traffic {t : TunnelStream} (ht : StreamOk configs t) {c : ConnId}
    (hbody : t.request.body = .tcp c) {o : Outcome} (ho : t.client.outcome = some o) {x : LocalTraffic}
    (hx : x ∈ o.traffic) :
    ∃ target, FirstEntry configs t.request.targetPort target ∧ x = .connect (localAddr target) := by
  obtain ⟨hact, hsent⟩ := ht
  obtain ⟨msgType, reserved, hi, lo, rest, target, hbytes, hfirst, hkind⟩ := hact.allowed ho hx
  rw [hbytes] at hsent
  obtain ⟨rfl, hport⟩ := sent_header hbody hsent
  rw [hport] at hfirst
  refine ⟨target, hfirst, ?_⟩
  rcases hkind with ⟨-, hx⟩ | ⟨habs, -⟩
  · exact hx
  · exact absurd habs (by decide)

theorem entry_of_section {accepted : ConfigFile} {proxies : List ReverseProxyConfig}
    (h : parseProxyConfigs accepted = .ok proxies) {i : ℕ} {rproxy : ReverseProxySection}
    (hi : accepted.reverseProxies[i]? = some rproxy) :
    ∃ c, proxies[i]? = some c ∧ parseProxyConfig rproxy = .ok c := by
  have hall := mapM_forall₂ h
  have hlen := hall.length_eq
  obtain ⟨hlt, rfl⟩ := List.getElem?_eq_some_iff.mp hi
  have hlt' : i < proxies.length := by omega
  exact ⟨proxies[i], List.getElem?_eq_getElem hlt', hall.get hlt hlt'⟩

theorem section_of_entry {accepted : ConfigFile} {proxies : List ReverseProxyConfig}
    (h : parseProxyConfigs accepted = .ok proxies) {i : ℕ} {c : ReverseProxyConfig} (hi : proxies[i]? = some c) :
    ∃ rproxy, accepted.reverseProxies[i]? = some rproxy ∧ parseProxyConfig rproxy = .ok c := by
  have hall := mapM_forall₂ h
  have hlen := hall.length_eq
  obtain ⟨hlt', rfl⟩ := List.getElem?_eq_some_iff.mp hi
  have hlt : i < accepted.reverseProxies.length := by omega
  exact ⟨accepted.reverseProxies[i], List.getElem?_eq_getElem hlt, hall.get hlt hlt'⟩

def Exposes (config : ConfigFile) (i : ℕ) (port : UInt16) : Prop :=
  ∃ rproxy, config.reverseProxies[i]? = some rproxy ∧ rproxy.getServerPort = .ok port

section Accepted

variable {accepted : ConfigFile} {proxies : List ReverseProxyConfig}

theorem exposes_iff (h : parseProxyConfigs accepted = .ok proxies) (i : ℕ) (port : UInt16) :
    Exposes accepted i port ↔ ∃ c, proxies[i]? = some c ∧ c.serverPort = port := by
  constructor
  · rintro ⟨rproxy, hi, hport⟩
    obtain ⟨c, hc, hparse⟩ := entry_of_section h hi
    have hserver := (parseProxyConfig_ok hparse).1
    rw [hport] at hserver
    exact ⟨c, hc, (Except.ok.inj hserver).symm⟩
  · rintro ⟨c, hc, rfl⟩
    obtain ⟨rproxy, hi, hparse⟩ := section_of_entry h hc
    exact ⟨rproxy, hi, (parseProxyConfig_ok hparse).1⟩

theorem exposes_unique (h : parseProxyConfigs accepted = .ok proxies)
    (hnodup : (proxies.map (·.serverPort)).Nodup) {c : ReverseProxyConfig} (hc : c ∈ proxies) :
    ∃! i, Exposes accepted i c.serverPort := by
  obtain ⟨i, hi⟩ := List.getElem?_of_mem hc
  refine ⟨i, (exposes_iff h i _).mpr ⟨c, hi, rfl⟩, ?_⟩
  intro j hj
  obtain ⟨d, hd, hport⟩ := (exposes_iff h j _).mp hj
  have hget : (proxies.map (·.serverPort))[j]? = (proxies.map (·.serverPort))[i]? := by simp [hd, hi, hport]
  have hlt : j < (proxies.map (·.serverPort)).length := by
    simpa using (List.getElem?_eq_some_iff.mp hd).1
  exact (List.getElem?_inj hlt hnodup).mp hget

end Accepted

def sampleConfig : ConfigFile :=
  ⟨none, [], none, none, [⟨"8080", "3000", none⟩, ⟨"2222", "10.0.0.5:22", none⟩], none,
    some ⟨"10.0.0.1:9001", none, none⟩⟩

end GscFq.Routing
