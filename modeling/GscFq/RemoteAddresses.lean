import GscFq.AddressRoundTrip
import GscFq.HostPort
import GscFq.ProxyInstances

namespace GscFq

open Text ConfigLoader

theorem IpAddr.parse_bracket {s : String} {cs : List Char} (h : s.toList = '[' :: cs) : IpAddr.parse s = none := by
  have hnumber (radix bound : ℕ) (m : Option ℕ) (zero : Bool) (hr : isDigitIn radix '[' = false) :
      readNumber radix m zero bound ('[' :: cs) = none := by
    simp [readNumber, hr]
  have hv4 : readIpv4Addr ('[' :: cs) = none := by
    simp [readIpv4Addr, readOctet, readSeparator, hnumber 10 256 (some 3) false (by decide)]
  have hgroups : readGroups 8 true ('[' :: cs) = ([], false, '[' :: cs) := by
    simp [readGroups, readSeparator, hv4, hnumber 16 65536 (some 4) true (by decide)]
  have hv6 : readIpv6Addr ('[' :: cs) = none := by
    unfold readIpv6Addr
    rw [hgroups]
    rfl
  unfold parse parseWith
  rw [h, readIpAddr, hv4]
  dsimp only
  rw [hv6]

/-- The text of a host before the port in the standard form of a socket address. -/
def hostText (ip : IpAddr) : String :=
  match ip with
  | .v4 .. => ip.display
  | .v6 _ => "[" ++ ip.display ++ "]"

theorem display_new (ip : IpAddr) (port : UInt16) :
    (SocketAddr.new ip port).display.toList = (hostText ip).toList ++ ':' :: (toString port.toNat).toList := by
  cases ip <;> simp [SocketAddr.display, SocketAddr.new, hostText]

theorem createSocketAddr_hostText (ip : IpAddr) (port : UInt16) (addr : SocketAddr) :
    createSocketAddr (hostText ip) port = .ok addr ↔ (∃ a b c d, ip = .v4 a b c d) ∧ addr = .new ip port := by
  cases ip with
  | v4 a b c d =>
    rw [hostText, createSocketAddr_of_parse port (IpAddr.parse_display _)]
    simp [eq_comm]
  | v6 segments =>
    have htext : (hostText (.v6 segments)).toList = '[' :: ((IpAddr.v6 segments).display ++ "]").toList := by
      simp [hostText]
    have hnone : IpAddr.parse (hostText (.v6 segments)) = none := IpAddr.parse_bracket htext
    simp [createSocketAddr, hnone]

namespace ProxyServer

def ForwardsTo (server : ProxyServer) (p : ProxySection) (addr : SocketAddr) : Prop :=
  ∃ server' x, server.addProxy p = .ok server' ∧ server'.proxyInstances = server.proxyInstances ++ [x] ∧
    x.remoteAddr = addr

theorem remote_address_kept_iff {server : ProxyServer} {p : ProxySection} {ip : IpAddr} {port : UInt16}
    (hport : ∃ localPort, p.getLocalPort = .ok localPort) (hip : ∃ localIp, server.localBindIp p = .ok localIp)
    (hremote : p.remote = (SocketAddr.new ip port).display) :
    ForwardsTo server p (.new ip port) ↔ (∃ a b c d, ip = .v4 a b c d) ∧ ∃ source, sourceIp p = .ok source := by
  have htext := display_new ip port
  rw [← hremote] at htext
  have hhost : p.getRemoteHost = .ok (hostText ip) :=
    ProxySection.getRemoteHost_eq htext (colon_not_mem_toString _)
  have hremotePort : p.getRemotePort = .ok port := portAfterColon_eq "remote" htext
  constructor
  · rintro ⟨server', x, hadd, -, -⟩
    obtain ⟨-, -, host, remotePort, addr, source, -, -, hh, hr, haddr, hs, -⟩ := addProxy_ok_iff.mp hadd
    cases hhost.symm.trans hh
    exact ⟨((createSocketAddr_hostText ip remotePort addr).mp haddr).1, source, hs⟩
  · rintro ⟨hv4, source, hs⟩
    obtain ⟨localPort, hl⟩ := hport
    obtain ⟨localIp, hi⟩ := hip
    have haddr := (createSocketAddr_hostText ip port (.new ip port)).mpr ⟨hv4, rfl⟩
    exact ⟨_, _, addProxy_ok_iff.mpr ⟨localPort, localIp, _, port, _, source, hl, hi, hhost, hremotePort, haddr, hs, rfl⟩,
      rfl, rfl⟩

def ipv4Remote : ProxySection := ⟨"8080", "192.0.2.7:443", some " 10.0.0.5", none, none, none⟩

theorem ipv4_remote_kept :
    ForwardsTo (.new (.v4 127 0 0 1)) ipv4Remote (.new (.v4 192 0 2 7) 443) := by
  refine (remote_address_kept_iff ⟨8080, by decide⟩ ⟨.v4 127 0 0 1, by decide⟩ (by decide)).mpr ⟨⟨192, 0, 2, 7, rfl⟩, ?_⟩
  exact sourceIp_ok (by simp [SourceIpValid, ipv4Remote]; decide)

def ipv6Remote : ProxySection := ⟨"8080", "[2001:db8::1]:443", none, none, none, none⟩

theorem ipv6_remote_refused :
    ipv6Remote.remote = (SocketAddr.new (.v6 #v[0x2001, 0xdb8, 0, 0, 0, 0, 0, 1]) 443).display ∧
      ¬ ForwardsTo (.new (.v4 127 0 0 1)) ipv6Remote (.new (.v6 #v[0x2001, 0xdb8, 0, 0, 0, 0, 0, 1]) 443) := by
  refine ⟨by decide +kernel, ?_⟩
  rintro ⟨server', x, hadd, -, -⟩
  obtain ⟨-, -, host, remotePort, addr, -, -, -, hh, -, haddr, -⟩ := addProxy_ok_iff.mp hadd
  have hhost : ipv6Remote.getRemoteHost = .ok "[2001:db8::1]" := by decide
  cases hhost.symm.trans hh
  have hnone : IpAddr.parse "[2001:db8::1]" = none := by decide
  simp [createSocketAddr, hnone] at haddr

end ProxyServer

end GscFq
