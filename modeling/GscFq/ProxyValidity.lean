import GscFq.Lists
import GscFq.ValidateTwice

namespace GscFq

open Text

/-- What `validate` leaves of a `source_ip`: nothing, or a text that is an address up to blanks. -/
def SourceIpValid (sourceIp : Option String) : Prop :=
  ∀ ip, sourceIp = some ip → (IpAddr.parse (trim ip)).isSome = true

structure ProxySection.Valid (p : ProxySection) (port : UInt16) : Prop where
  localPort : p.getLocalPort = .ok port
  nonzero : port ≠ 0
  remoteHost : ∃ host, p.getRemoteHost = .ok host
  remotePort : ∃ remote, p.getRemotePort = .ok remote
  sourceIp : SourceIpValid p.sourceIp

theorem ProxySection.WellFormed.valid {p : ProxySection} (h : p.WellFormed) (hs : SettledSourceIp p.sourceIp) :
    ∃ port, p.Valid port := by
  obtain ⟨⟨port, hport, hnonzero⟩, ⟨remote, hremote, -⟩, -⟩ := h
  exact ⟨port, hport, hnonzero, p.getRemoteHost_total, ⟨remote, hremote⟩, fun ip hip => (hs ip hip).2.2⟩

theorem validate_proxies {config accepted : ConfigFile} {warnings : List String}
    (h : config.validate = (accepted, .ok warnings)) :
    (∀ text, accepted.server.bind (·.bindIp) = some text → (IpAddr.parse (trim text)).isSome = true) ∧
      ∃ ports, List.Forall₂ ProxySection.Valid accepted.proxies ports ∧ ports.Nodup := by
  obtain ⟨hwell, hsettled⟩ := validate_wellFormed h
  obtain ⟨ports, hvalid⟩ := Lists.exists_forall₂ (fun p hp => (hwell.proxies p hp).valid (hsettled.proxies p hp))
  refine ⟨fun text htext => (hsettled.bindIp text htext).2.2, ports, hvalid, ?_⟩
  apply Lists.pairwise_of_forall₂ hvalid hwell.localPorts
  rintro p port q port' hp hq hne rfl
  exact hne (hp.localPort.trans hq.localPort.symm)

end GscFq
