import GscFq.ProxyValidity
import GscFq.Runtime

namespace GscFq

open Text

theorem bind_ok_iff {ε α β : Type} {x : Except ε α} {f : α → Except ε β} {b : β} :
    x.bind f = .ok b ↔ ∃ a, x = .ok a ∧ f a = .ok b := by
  cases x with
  | error e => simp [Except.bind]
  | ok a => simp [Except.bind]

structure ProxySection.Serves (p : ProxySection) (x : ProxyInstance) : Prop where
  localPort : p.getLocalPort = .ok x.bindAddr.port
  remotePort : p.getRemotePort = .ok x.remoteAddr.port

structure ProxySection.Literal (p : ProxySection) : Prop where
  localIp : ∀ text, p.getLocalIp = some text → (IpAddr.parse (trim text)).isSome = true
  named : contains ':' p.remote = true
  remoteHost : (IpAddr.parse (hostBeforeColon p.remote)).isSome = true

namespace ConfigLoader

theorem parseIpAddress_ok_iff {text : String} :
    (∃ ip, parseIpAddress text = .ok ip) ↔ (IpAddr.parse (trim text)).isSome = true := by
  unfold parseIpAddress
  cases h : IpAddr.parse (trim text) with
  | none => simp [h]
  | some ip => simp [h]

theorem createSocketAddr_ok {host : String} {port : UInt16} {addr : SocketAddr}
    (h : createSocketAddr host port = .ok addr) : addr.port = port ∧ (IpAddr.parse host).isSome = true := by
  unfold createSocketAddr at h
  split at h
  · rename_i ip hip
    cases h
    exact ⟨rfl, by rw [hip, Option.isSome_some]⟩
  · cases h

theorem createSocketAddr_of_parse {host : String} {ip : IpAddr} (port : UInt16) (h : IpAddr.parse host = some ip) :
    createSocketAddr host port = .ok (.new ip port) := by
  simp only [createSocketAddr, h]

end ConfigLoader

theorem ProxySection.getRemoteHost_of_contains {p : ProxySection} {host : String} (h : p.getRemoteHost = .ok host) :
    (contains ':' p.remote = true ∧ host = hostBeforeColon p.remote) ∨
      (contains ':' p.remote = false ∧ host = "localhost") := by
  unfold getRemoteHost at h
  split at h
  · rename_i hc
    split at h
    · cases h
    · cases h
      exact Or.inl ⟨hc, rfl⟩
  · rename_i hc
    cases h
    exact Or.inr ⟨by simpa using hc, rfl⟩

theorem parse_localhost : IpAddr.parse "localhost" = none := by decide

namespace ProxyServer

open ConfigLoader

def localBindIp (server : ProxyServer) (p : ProxySection) : Except AppError IpAddr :=
  match p.getLocalIp with
  | some localIp => parseIpAddress localIp
  | none => .ok server.bindIp

def sourceIp (p : ProxySection) : Except AppError (Option IpAddr) :=
  match p.sourceIp with
  | some ip => (parseIpAddress ip).map some
  | none => .ok none

theorem addProxy_ok_iff {server server' : ProxyServer} {p : ProxySection} :
    server.addProxy p = .ok server' ↔ ∃ localPort ip host remotePort remoteAddr source,
      p.getLocalPort = .ok localPort ∧ server.localBindIp p = .ok ip ∧ p.getRemoteHost = .ok host ∧
        p.getRemotePort = .ok remotePort ∧ createSocketAddr host remotePort = .ok remoteAddr ∧
          sourceIp p = .ok source ∧ server' = { server with proxyInstances := server.proxyInstances ++
            [⟨.new ip localPort, remoteAddr, source, p.allowIps, p.maxConnsPerIp, p.cpsLimit⟩] } := by
  have heq : server.addProxy p = (p.getLocalPort.bind fun localPort => (server.localBindIp p).bind fun ip =>
      p.getRemoteHost.bind fun host => p.getRemotePort.bind fun remotePort =>
        (createSocketAddr host remotePort).bind fun remoteAddr => (sourceIp p).bind fun source =>
          .ok { server with proxyInstances := server.proxyInstances ++
            [⟨.new ip localPort, remoteAddr, source, p.allowIps, p.maxConnsPerIp, p.cpsLimit⟩] }) := by
    unfold addProxy localBindIp sourceIp
    cases p.getLocalIp <;> cases p.sourceIp <;> rfl
  rw [heq]
  simp only [bind_ok_iff, Except.ok.injEq]
  constructor
  · rintro ⟨localPort, hl, ip, hip, host, hh, remotePort, hr, remoteAddr, haddr, source, hs, heq⟩
    exact ⟨localPort, ip, host, remotePort, remoteAddr, source, hl, hip, hh, hr, haddr, hs, heq.symm⟩
  · rintro ⟨localPort, ip, host, remotePort, remoteAddr, source, hl, hip, hh, hr, haddr, hs, heq⟩
    exact ⟨localPort, hl, ip, hip, host, hh, remotePort, hr, remoteAddr, haddr, source, hs, heq.symm⟩

theorem addProxy_serves {server server' : ProxyServer} {p : ProxySection} (h : server.addProxy p = .ok server') :
    ∃ x, p.Serves x ∧ server'.proxyInstances = server.proxyInstances ++ [x] := by
  obtain ⟨localPort, ip, host, remotePort, remoteAddr, source, hl, -, -, hr, haddr, -, rfl⟩ := addProxy_ok_iff.mp h
  refine ⟨_, ⟨hl, ?_⟩, rfl⟩
  rw [hr, (createSocketAddr_ok haddr).1]

theorem localBindIp_ok_iff {server : ProxyServer} {p : ProxySection} : (∃ ip, server.localBindIp p = .ok ip) ↔
    ∀ text, p.getLocalIp = some text → (IpAddr.parse (trim text)).isSome = true := by
  unfold localBindIp
  cases p.getLocalIp with
  | none => simp
  | some text => simpa using parseIpAddress_ok_iff

theorem sourceIp_ok {p : ProxySection} (h : SourceIpValid p.sourceIp) : ∃ source, sourceIp p = .ok source := by
  unfold sourceIp
  cases hs : p.sourceIp with
  | none => exact ⟨none, rfl⟩
  | some text =>
    obtain ⟨ip, hip⟩ := parseIpAddress_ok_iff.mpr (h text hs)
    exact ⟨some ip, by simp [hip, Except.map]⟩

theorem addProxy_ok {server : ProxyServer} {p : ProxySection} {port : UInt16} (hp : p.Valid port) :
    (∃ server', server.addProxy p = .ok server') ↔ p.Literal := by
  obtain ⟨host, hhost⟩ := hp.remoteHost
  obtain ⟨remote, hremote⟩ := hp.remotePort
  constructor
  · rintro ⟨server', h⟩
    obtain ⟨_, ip, host', _, remoteAddr, _, -, hip, hhost', -, haddr, -, -⟩ := addProxy_ok_iff.mp h
    have hparse := (createSocketAddr_ok haddr).2
    rcases ProxySection.getRemoteHost_of_contains hhost' with ⟨hc, rfl⟩ | ⟨-, rfl⟩
    · exact ⟨localBindIp_ok_iff.mp ⟨ip, hip⟩, hc, hparse⟩
    · -- a bare port stands for `localhost`, which is no address
      rw [parse_localhost] at hparse
      cases hparse
  · intro hlit
    obtain ⟨ip, hip⟩ := localBindIp_ok_iff.mpr hlit.localIp
    obtain ⟨source, hsource⟩ := sourceIp_ok hp.sourceIp
    rcases ProxySection.getRemoteHost_of_contains hhost with ⟨-, rfl⟩ | ⟨hc, -⟩
    · obtain ⟨remoteIp, hparse⟩ := Option.isSome_iff_exists.mp hlit.remoteHost
      exact ⟨_, addProxy_ok_iff.mpr ⟨port, ip, _, remote, _, source, hp.localPort, hip, hhost, hremote,
        createSocketAddr_of_parse remote hparse, hsource, rfl⟩⟩
    · rw [hlit.named] at hc
      cases hc

theorem foldlM_addProxy_serves {server server' : ProxyServer} {proxies : List ProxySection}
    (h : proxies.foldlM addProxy server = .ok server') :
    ∃ xs, List.Forall₂ ProxySection.Serves proxies xs ∧ server'.proxyInstances = server.proxyInstances ++ xs := by
  induction proxies generalizing server with
  | nil =>
    obtain rfl : server = server' := Except.ok.inj h
    exact ⟨[], .nil, (List.append_nil _).symm⟩
  | cons p proxies ih =>
    obtain ⟨next, hp, hrest⟩ := bind_ok_iff.mp h
    obtain ⟨x, hx, happ⟩ := addProxy_serves hp
    obtain ⟨xs, hxs, hall⟩ := ih hrest
    refine ⟨x :: xs, .cons hx hxs, ?_⟩
    rw [hall, happ, List.append_assoc, List.singleton_append]

theorem foldlM_addProxy_ok {server : ProxyServer} {proxies : List ProxySection} {ports : List UInt16}
    (hv : List.Forall₂ ProxySection.Valid proxies ports) :
    (∃ server', proxies.foldlM addProxy server = .ok server') ↔ ∀ p ∈ proxies, p.Literal := by
  induction hv generalizing server with
  | nil => exact iff_of_true ⟨server, rfl⟩ (by simp)
  | @cons p port proxies ports hp hv ih =>
    rw [List.forall_mem_cons]
    constructor
    · rintro ⟨server', h⟩
      obtain ⟨next, hnext, hrest⟩ := bind_ok_iff.mp h
      exact ⟨(addProxy_ok hp).mp ⟨next, hnext⟩, ih.mp ⟨server', hrest⟩⟩
    · rintro ⟨hlit, hall⟩
      obtain ⟨next, hnext⟩ := (@addProxy_ok server p port hp).mpr hlit
      obtain ⟨server', hrest⟩ := (@ih next).mpr hall
      exact ⟨server', bind_ok_iff.mpr ⟨next, hnext, hrest⟩⟩

theorem build_serves {ip : IpAddr} {proxies : List ProxySection} {server : ProxyServer}
    (h : build ip proxies = .ok server) : List.Forall₂ ProxySection.Serves proxies server.proxyInstances := by
  obtain ⟨xs, hxs, happ⟩ := foldlM_addProxy_serves h
  rw [happ]
  exact hxs

end ProxyServer

end GscFq
