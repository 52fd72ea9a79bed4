import GscFq.StealthSecurity
import GscFq.Transitions

namespace GscFq.Stealth

open StealthConnectionHandler

abbrev ConnId := ℕ

abbrev BackendId := ℕ

/-- Where a `handle_connection` task stands: before `check_security`, before the counters, before the
socket options, in `handle_stealth`, with its result at hand, or at its end. -/
inductive Stage where
  | accepted
  | counting
  | optimizing
  | forwarding
  | releasing (result : Except AppError Unit)
  | returned (result : Except AppError Unit)
  deriving DecidableEq

/-- `peer` and `again` are the answers of the two `peer_addr` calls. `passed`, `forwarded` and
`nodelay` are history: `check_security` accepted, `handle_stealth` is over, `set_nodelay` failed. -/
structure Conn where
  stage : Stage
  peer : Option IpAddr
  again : Option IpAddr
  passed : Bool
  forwarded : Bool
  nodelay : Option IoError
  deriving DecidableEq

def Conn.start : Conn := ⟨.accepted, none, none, false, false, none⟩

structure Counters where
  totalConnections : ℕ
  activeConnections : ℕ
  successfulConnections : ℕ
  failedConnections : ℕ
  deriving DecidableEq, Repr

/-- Tasks are numbered in the order they were spawned; `packets` are the senders of the UDP packets
whose tasks passed `check_security` and wait for the sessions; `backends` counts the sockets that were
bound for UDP sessions. -/
structure State where
  now : ℕ
  ipStats : IpStats
  counters : Counters
  conns : List Conn
  packets : List SocketAddr
  udpSessions : AList (fun _ : SocketAddr => BackendId)
  backends : ℕ

def init : State := ⟨0, ∅, ⟨0, 0, 0, 0⟩, [], [], ∅, 0⟩

inductive TcpEvent where
  | check (peer : Option IpAddr)
  | count
  | optimize (again : Option IpAddr) (nodelay : Option IoError)
  | forwarded (result : Except AppError Unit)
  | release
  deriving DecidableEq

structure UdpIo where
  bind : Option IoError
  connect : Option IoError
  send : Option IoError
  deriving DecidableEq, Repr

/-- The task of a UDP packet has two steps, its check and, under the lock of the sessions, the rest. A
session expires when its relay task removes it. -/
inductive Event where
  | advance (nanos : ℕ)
  | accept
  | tcp (c : ConnId) (e : TcpEvent)
  | udp (addr : SocketAddr)
  | forward (addr : SocketAddr) (io : UdpIo)
  | expire (addr : SocketAddr)
  deriving DecidableEq

def nodelayFailed (e : IoError) : AppError := forwardingFailed ("Failed to set nodelay: " ++ e.text)

/-- A step of `handle_connection`, with its effect on what the handler shares: the counts by IP and
the counters. The slot is given back under the answer of the second `peer_addr`. -/
def handleConnection (h : StealthConnectionHandler) (now : ℕ) (conn : Conn) (ipStats : IpStats)
    (counters : Counters) : TcpEvent → Option (Conn × IpStats × Counters)
  | .check peer =>
    match conn.stage, peer with
    | .accepted, none => some ({ conn with stage := .counting }, ipStats, counters)
    | .accepted, some ip =>
      match h.checkSecurity now ip ipStats with
      | (.ok (), ipStats) =>
        some ({ conn with stage := .counting, peer := some ip, passed := true }, ipStats, counters)
      | (.error r, ipStats) =>
        some ({ conn with stage := .returned (.error (r.error ip)), peer := some ip }, ipStats, counters)
    | _, _ => none
  | .count =>
    match conn.stage with
    | .counting =>
      some ({ conn with stage := .optimizing }, ipStats,
        { counters with
          totalConnections := counters.totalConnections + 1
          activeConnections := counters.activeConnections + 1 })
    | _ => none
  | .optimize again nodelay =>
    match conn.stage, nodelay with
    | .optimizing, none => some ({ conn with stage := .forwarding, again := again }, ipStats, counters)
    | .optimizing, some e =>
      some ({ conn with stage := .returned (.error (nodelayFailed e)), again := again, nodelay := some e },
        ipStats, counters)
    | _, _ => none
  | .forwarded result =>
    match conn.stage, result with
    | .forwarding, .ok () =>
      some ({ conn with stage := .releasing (.ok ()), forwarded := true }, ipStats,
        { counters with successfulConnections := counters.successfulConnections + 1 })
    | .forwarding, .error e =>
      some ({ conn with stage := .releasing (.error e), forwarded := true }, ipStats, counters)
    | _, _ => none
  | .release =>
    match conn.stage with
    | .releasing result =>
      let ipStats := conn.again.elim ipStats (fun ip => h.registerDisconnection ip ipStats)
      match result with
      | .ok () =>
        some ({ conn with stage := .returned (.ok ()) }, ipStats,
          { counters with activeConnections := counters.activeConnections - 1 })
      | .error e =>
        some ({ conn with stage := .returned (.error e) }, ipStats,
          { counters with failedConnections := counters.failedConnections + 1 })
    | _ => none

def sendResult (io : UdpIo) : Except AppError Unit :=
  match io.send with
  | none => .ok ()
  | some e => .error (forwardingFailed ("Failed to forward UDP packet: " ++ e.text))

/-- `handle_udp_packet` up to the lock of the sessions. -/
def handleUdpPacket (h : StealthConnectionHandler) (s : State) (addr : SocketAddr) : Except AppError Unit × State :=
  match h.checkSecurity s.now addr.ip s.ipStats with
  | (.error r, ipStats) => (.error (r.error addr.ip), { s with ipStats := ipStats })
  | (.ok (), ipStats) =>
    (.ok (),
      { s with
        ipStats := ipStats
        packets := s.packets ++ [addr] })

/-- `handle_udp_packet` from there on; the lock is held over `bind`, `connect` and `send`. -/
def forwardUdp (h : StealthConnectionHandler) (s : State) (addr : SocketAddr) (io : UdpIo) :
    Except AppError Unit × State :=
  match s.udpSessions.lookup addr with
  | some _ => (sendResult io, s)
  | none =>
    match io.bind, io.connect with
    | some e, _ => (.error (forwardingFailed ("Failed to bind backend UDP socket: " ++ e.text)), s)
    | none, some e =>
      (.error (forwardingFailed ("Failed to connect to remote UDP " ++ h.remoteAddr.display ++ ": " ++ e.text)), s)
    | none, none =>
      (sendResult io,
        { s with
          udpSessions := s.udpSessions.insert addr s.backends
          backends := s.backends + 1 })

def step (h : StealthConnectionHandler) (s : State) : Event → Option State
  | .advance nanos => some { s with now := s.now + nanos }
  | .accept => some { s with conns := s.conns ++ [.start] }
  | .tcp c e =>
    (s.conns[c]?).bind (fun conn =>
      (handleConnection h s.now conn s.ipStats s.counters e).map (fun p =>
        { s with
          conns := s.conns.set c p.1
          ipStats := p.2.1
          counters := p.2.2 }))
  | .udp addr => some (handleUdpPacket h s addr).2
  | .forward addr io =>
    if addr ∈ s.packets then some (forwardUdp h { s with packets := s.packets.erase addr } addr io).2 else none
  | .expire addr =>
    if (s.udpSessions.lookup addr).isSome then some { s with udpSessions := s.udpSessions.erase addr } else none

abbrev run (h : StealthConnectionHandler) (es : List Event) : Option State :=
  Transitions.run (step h) init es

variable {h : StealthConnectionHandler}

/-- What a step leaves as it was; a UDP packet that waits for the sessions touches only these and their sockets. -/
inductive Stepped (h : StealthConnectionHandler) (s : State) : Event → State → Prop
  | advance (nanos : ℕ) : Stepped h s (.advance nanos) { s with now := s.now + nanos }
  | accept : Stepped h s .accept { s with conns := s.conns ++ [.start] }
  | tcp {c : ConnId} {e : TcpEvent} {conn conn' : Conn} {ipStats' : IpStats} {counters' : Counters}
      (before : s.conns[c]? = some conn)
      (moved : handleConnection h s.now conn s.ipStats s.counters e = some (conn', ipStats', counters')) :
      Stepped h s (.tcp c e) { s with conns := s.conns.set c conn', ipStats := ipStats', counters := counters' }
  | udp (addr : SocketAddr) (packets : List SocketAddr) :
      Stepped h s (.udp addr)
        { s with ipStats := (h.checkSecurity s.now addr.ip s.ipStats).2, packets := packets }
  | forward (addr : SocketAddr) (io : UdpIo) (packets : List SocketAddr)
      (udpSessions : AList (fun _ : SocketAddr => BackendId)) (backends : ℕ) :
      Stepped h s (.forward addr io) { s with packets := packets, udpSessions := udpSessions, backends := backends }
  | expire (addr : SocketAddr) (udpSessions : AList (fun _ : SocketAddr => BackendId)) :
      Stepped h s (.expire addr) { s with udpSessions := udpSessions }

theorem step_stepped {s s' : State} {e : Event} (he : step h s e = some s') : Stepped h s e s' := by
  cases e with
  | advance nanos =>
    cases he
    exact .advance nanos
  | accept =>
    cases he
    exact .accept
  | tcp c e =>
    simp only [step, Option.bind_eq_some_iff, Option.map_eq_some_iff] at he
    obtain ⟨conn, hconn, ⟨conn', ipStats', counters'⟩, hp, rfl⟩ := he
    exact .tcp hconn hp
  | udp addr =>
    cases he
    have hudp := Stepped.udp (h := h) (s := s) addr
    unfold handleUdpPacket
    split <;> rename_i hcheck <;> rw [hcheck] at hudp
    · exact hudp s.packets
    · exact hudp (s.packets ++ [addr])
  | forward addr io =>
    simp only [step] at he
    split at he <;> cases he
    have hforward := Stepped.forward (h := h) (s := s) addr io (s.packets.erase addr)
    unfold forwardUdp
    split
    · exact hforward s.udpSessions s.backends
    · split
      · exact hforward s.udpSessions s.backends
      · exact hforward s.udpSessions s.backends
      · exact hforward _ _
  | expire addr =>
    simp only [step] at he
    split at he <;> cases he
    exact .expire addr _

end GscFq.Stealth
