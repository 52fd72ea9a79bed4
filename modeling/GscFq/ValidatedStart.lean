import GscFq.ProxyInstances

namespace GscFq

open Text

namespace RuntimeManager

/-- The start of every configured service: the addresses are read and each entry has its instance. -/
structure Starts (config : ConfigFile) : Prop where
  forward : ∃ ip server, bindIp config = .ok ip ∧ ProxyServer.build ip config.proxies = .ok server ∧
    List.Forall₂ ProxySection.Serves config.proxies server.proxyInstances
  client : ∀ sec, config.reverseProxyClient = some sec → ∃ addr, IpAddr.parseSocketAddr sec.server = some addr

theorem bindIp_ok {config : ConfigFile}
    (h : ∀ text, config.server.bind (·.bindIp) = some text → (IpAddr.parse (trim text)).isSome = true) :
    ∃ ip, bindIp config = .ok ip := by
  unfold bindIp
  split
  · rename_i text htext
    exact ConfigLoader.parseIpAddress_ok_iff.mpr (h text htext)
  · exact ⟨_, rfl⟩

theorem validated_starts_iff {config accepted : ConfigFile} {warnings : List String}
    (hv : config.validate = (accepted, .ok warnings)) :
    Starts accepted ↔ (∀ p ∈ accepted.proxies, p.Literal) ∧
      ∀ sec, accepted.reverseProxyClient = some sec → (IpAddr.parseSocketAddr sec.server).isSome = true := by
  obtain ⟨hbind, ports, hvalid, -⟩ := validate_proxies hv
  constructor
  · rintro ⟨⟨ip, server, -, hbuild, -⟩, hclient⟩
    refine ⟨(ProxyServer.foldlM_addProxy_ok hvalid).mp ⟨server, hbuild⟩, ?_⟩
    intro sec hsec
    exact Option.isSome_iff_exists.mpr (hclient sec hsec)
  · rintro ⟨hlit, hclient⟩
    obtain ⟨ip, hip⟩ := bindIp_ok hbind
    obtain ⟨server, hbuild⟩ := (@ProxyServer.foldlM_addProxy_ok (.new ip) _ _ hvalid).mpr hlit
    refine ⟨⟨ip, server, hip, hbuild, ProxyServer.build_serves hbuild⟩, ?_⟩
    intro sec hsec
    exact Option.isSome_iff_exists.mp (hclient sec hsec)

def forwardEntry (localAddr remote : String) : ProxySection := ⟨localAddr, remote, none, none, none, none⟩

def forwardConfig (localAddr remote : String) (port : Option UInt16) : ConfigFile :=
  ⟨none, [forwardEntry localAddr remote], none, none, [], port.map (fun n => ⟨n, [], none⟩), none⟩

theorem loopback_remote_starts : Starts (forwardConfig "127.0.0.1:8080" "127.0.0.1:80" none) := by
  have hv : (forwardConfig "127.0.0.1:8080" "127.0.0.1:80" none).validate =
      (forwardConfig "127.0.0.1:8080" "127.0.0.1:80" none, .ok []) := rfl
  apply (validated_starts_iff hv).mpr
  constructor
  · intro p hp
    obtain rfl := List.mem_singleton.mp hp
    constructor
    · rintro text ⟨⟩
      decide
    · decide
    · decide
  · rintro sec ⟨⟩

/-- The bare port a remote may be written as is taken for `localhost`, and the start fails on it. -/
theorem bare_port_remote_rejected :
    (forwardConfig "8080" "80" none).validate = (forwardConfig "8080" "80" none, .ok []) ∧
      ¬ Starts (forwardConfig "8080" "80" none) := by
  refine ⟨rfl, ?_⟩
  rintro ⟨⟨ip, server, hip, hbuild, -⟩, -⟩
  cases hip
  cases hbuild

def listeningPorts (config : ConfigFile) : List UInt16 :=
  config.proxies.filterMap (fun p => p.getLocalPort.toOption) ++ (config.reverseProxyServer.map (·.port)).toList

def Service.tcpPorts : Service → List UInt16
  | .forward server => server.proxyInstances.map (·.bindAddr.port)
  | .reverseServer server => [server.controlAddr.port]
  | .reverseClient _ => []

theorem localPorts_of_forall₂ {α : Type} {port : α → UInt16} {proxies : List ProxySection} {xs : List α}
    (h : List.Forall₂ (fun p x => p.getLocalPort = .ok (port x)) proxies xs) :
    proxies.filterMap (fun p => p.getLocalPort.toOption) = xs.map port := by
  induction h with
  | nil => rfl
  | cons hp _ ih =>
    rw [List.filterMap_cons, hp, List.map_cons, ← ih]
    rfl

theorem mem_localPorts {proxies : List ProxySection} {port : UInt16} :
    port ∈ proxies.filterMap (fun p => p.getLocalPort.toOption) ↔ ∃ p ∈ proxies, p.getLocalPort = .ok port := by
  rw [List.mem_filterMap]
  constructor
  · rintro ⟨p, hp, hport⟩
    refine ⟨p, hp, ?_⟩
    cases hl : p.getLocalPort with
    | error e => simp [hl, Except.toOption] at hport
    | ok n => simpa [hl, Except.toOption] using hport
  · rintro ⟨p, hp, hport⟩
    exact ⟨p, hp, by rw [hport]; rfl⟩

theorem ports_nonzero {proxies : List ProxySection} {ports : List UInt16}
    (h : List.Forall₂ ProxySection.Valid proxies ports) : 0 ∉ ports := by
  induction h with
  | nil => simp
  | cons hp _ ih =>
    rw [List.mem_cons, not_or]
    exact ⟨hp.nonzero.symm, ih⟩

theorem startForward_ports {ip : IpAddr} {config : ConfigFile} {services : List Service}
    (h : startForward ip config = .ok services) :
    services.flatMap Service.tcpPorts = config.proxies.filterMap (fun p => p.getLocalPort.toOption) := by
  unfold startForward at h
  split at h
  · rename_i hempty
    cases h
    rw [List.isEmpty_iff.mp hempty]
    rfl
  · cases hb : ProxyServer.build ip config.proxies with
    | error e => simp [hb, Except.map] at h
    | ok server =>
      simp only [hb, Except.map, Except.ok.injEq] at h
      have hlocal := localPorts_of_forall₂ ((ProxyServer.build_serves hb).imp (fun _ _ hs => hs.localPort))
      rw [← h, hlocal]
      simp [Service.tcpPorts]

theorem startReverseServer_ports (env : Option String) (ip : IpAddr) (config : ConfigFile) :
    (startReverseServer env ip config).flatMap Service.tcpPorts = (config.reverseProxyServer.map (·.port)).toList := by
  unfold startReverseServer
  cases config.reverseProxyServer with
  | none => rfl
  | some sec => rfl

theorem startReverseClient_ports {env : Option String} {config : ConfigFile} {services : List Service}
    (h : startReverseClient env config = .ok services) : services.flatMap Service.tcpPorts = [] := by
  rw [List.flatMap_eq_nil_iff]
  intro service hm
  obtain ⟨addr, rfl⟩ := startReverseClient_services h hm
  rfl

theorem run_ports {env : Option String} {config : ConfigFile} (h : (run env config).outcome = .ok ()) :
    (run env config).services.flatMap Service.tcpPorts = listeningPorts config := by
  have hok : ∀ e, (run env config).outcome ≠ .error e := by simp [h]
  rcases run_cases env config with ⟨-, e, he⟩ | ⟨ip, forward, client, -, hf, hall, hclient⟩
  · exact absurd he (hok e)
  · rcases hclient with hc | ⟨-, e, he⟩
    · rw [hall, List.flatMap_append, List.flatMap_append, startForward_ports hf, startReverseServer_ports,
        startReverseClient_ports hc, List.append_nil]
      rfl
    · exact absurd he (hok e)

theorem listening_ports_iff {config accepted : ConfigFile} {warnings : List String}
    (hv : config.validate = (accepted, .ok warnings)) :
    ((0 ∉ listeningPorts accepted ∧ (listeningPorts accepted).Nodup) ↔
        ∀ sec, accepted.reverseProxyServer = some sec →
          sec.port ≠ 0 ∧ ∀ p ∈ accepted.proxies, p.getLocalPort ≠ .ok sec.port) ∧
      ∀ env, (run env accepted).outcome = .ok () →
        (run env accepted).services.flatMap Service.tcpPorts = listeningPorts accepted := by
  refine ⟨?_, fun env => run_ports⟩
  obtain ⟨-, ports, hvalid, hnodup⟩ := validate_proxies hv
  have hports : accepted.proxies.filterMap (fun p => p.getLocalPort.toOption) = ports := by
    rw [@localPorts_of_forall₂ _ id _ _ (hvalid.imp (fun _ _ hp => hp.localPort)), List.map_id]
  have hzero := ports_nonzero hvalid
  unfold listeningPorts
  cases hs : accepted.reverseProxyServer with
  | none => simp [hports, hzero, hnodup]
  | some sec =>
    have hclash : (∀ p ∈ accepted.proxies, p.getLocalPort ≠ .ok sec.port) ↔ sec.port ∉ ports := by
      rw [← hports, mem_localPorts]
      push Not
      rfl
    rw [hports]
    simp only [Option.map_some, Option.toList_some, List.mem_append, List.mem_singleton, not_or, List.nodup_append,
      Option.some.injEq, forall_eq']
    rw [hclash]
    constructor
    · rintro ⟨⟨-, hne⟩, -, -, hdisj⟩
      exact ⟨Ne.symm hne, fun hm => hdisj _ hm _ rfl rfl⟩
    · rintro ⟨hne, hnot⟩
      refine ⟨⟨hzero, hne.symm⟩, hnodup, List.nodup_singleton _, ?_⟩
      rintro a ha b rfl rfl
      exact hnot ha

theorem distinct_ports_listed :
    0 ∉ listeningPorts (forwardConfig "8080" "127.0.0.1:80" (some 9001)) ∧
      (listeningPorts (forwardConfig "8080" "127.0.0.1:80" (some 9001))).Nodup := by
  have hv : (forwardConfig "8080" "127.0.0.1:80" (some 9001)).validate =
      (forwardConfig "8080" "127.0.0.1:80" (some 9001), .ok []) := rfl
  apply (listening_ports_iff hv).1.mpr
  rintro sec ⟨⟩
  refine ⟨by decide, ?_⟩
  intro p hp hport
  obtain rfl := List.mem_singleton.mp hp
  cases hport

theorem control_port_taken :
    (forwardConfig "9001" "127.0.0.1:80" (some 9001)).validate =
        (forwardConfig "9001" "127.0.0.1:80" (some 9001), .ok []) ∧
      (run none (forwardConfig "9001" "127.0.0.1:80" (some 9001))).outcome = .ok () ∧
      ¬ (0 ∉ listeningPorts (forwardConfig "9001" "127.0.0.1:80" (some 9001)) ∧
        (listeningPorts (forwardConfig "9001" "127.0.0.1:80" (some 9001))).Nodup) := by
  refine ⟨rfl, rfl, ?_⟩
  have hports : listeningPorts (forwardConfig "9001" "127.0.0.1:80" (some 9001)) = [9001, 9001] := rfl
  rw [hports]
  decide

end RuntimeManager

end GscFq
