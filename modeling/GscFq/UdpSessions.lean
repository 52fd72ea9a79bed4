import GscFq.StealthConnections

/-!
`handle_udp_packet` and the relay tasks, one step for each await: what runs between two awaits is one
step, except that a new relay may run before its session is inserted.
-/

namespace GscFq.UdpSessions

open ByteStream Stealth

abbrev RelayId := ℕ

/-- Where a packet's task stands while it holds the lock of `udp_sessions`. -/
inductive Section where
  | binding
  | connecting (socket : BackendId)
  | spawning (socket : BackendId)
  | inserting (socket : BackendId)
  | sending (socket : BackendId)
  deriving DecidableEq, Repr

structure Packet where
  client : SocketAddr
  data : Bytes
  deriving DecidableEq, Repr

inductive Holder where
  | packet (pkt : Packet) (place : Section)
  | relay (r : RelayId)
  deriving DecidableEq, Repr

inductive RelayStage where
  | receiving
  | replying (d : Bytes)
  | leaving
  | done
  deriving DecidableEq, Repr

/-- `received` and `sent` are the datagrams that came in on the backend socket and those that were given
to `send_to`, with the address they were sent to. -/
structure Relay where
  client : SocketAddr
  socket : BackendId
  stage : RelayStage
  received : List Bytes
  sent : List (SocketAddr × Bytes)
  deriving DecidableEq, Repr

/-- `waiting` are the packets whose tasks passed `check_security`, `owners` says for which client a backend
socket was bound, and `out` are the datagrams sent on to the remote with the clients they came from. -/
structure State where
  sessions : AList (fun _ : SocketAddr => BackendId)
  holder : Option Holder
  waiting : List Packet
  relays : List Relay
  owners : List SocketAddr
  out : List (BackendId × Packet)
  results : List (Except AppError Unit)

def init : State := ⟨∅, none, [], [], [], [], []⟩

inductive SectionEvent where
  | bind (failed : Option IoError)
  | connect (failed : Option IoError)
  | spawn
  | insert
  | send (failed : Option IoError)
  deriving DecidableEq, Repr

inductive RelayEvent where
  | recv (d : Bytes)
  | sendTo (failed : Option IoError)
  | recvError (e : IoError)
  | timeout
  | lock
  | remove
  deriving DecidableEq, Repr

/-- A packet arrives with the verdict `check_security` comes to; any waiting task may get the lock. -/
inductive Event where
  | arrive (pkt : Packet) (verdict : Except Refusal Unit)
  | lock (i : ℕ)
  | packet (e : SectionEvent)
  | relay (r : RelayId) (e : RelayEvent)
  deriving DecidableEq

def State.finish (s : State) (result : Except AppError Unit) : State :=
  { s with holder := none, results := s.results ++ [result] }

def handleUdpPacket (h : StealthConnectionHandler) (s : State) (pkt : Packet) : Section → SectionEvent → Option State
  | .binding, .bind (some e) =>
    some (s.finish (.error (forwardingFailed ("Failed to bind backend UDP socket: " ++ e.text))))
  | .binding, .bind none =>
    some { s with holder := some (.packet pkt (.connecting s.owners.length)), owners := s.owners ++ [pkt.client] }
  | .connecting _, .connect (some e) =>
    some (s.finish (.error
      (forwardingFailed ("Failed to connect to remote UDP " ++ h.remoteAddr.display ++ ": " ++ e.text))))
  | .connecting socket, .connect none => some { s with holder := some (.packet pkt (.spawning socket)) }
  | .spawning socket, .spawn =>
    some { s with holder := some (.packet pkt (.inserting socket))
                  relays := s.relays ++ [⟨pkt.client, socket, .receiving, [], []⟩] }
  | .inserting socket, .insert =>
    some { s with holder := some (.packet pkt (.sending socket)), sessions := s.sessions.insert pkt.client socket }
  | .sending _, .send (some e) => some (s.finish (.error (forwardingFailed ("Failed to forward UDP packet: " ++ e.text))))
  | .sending socket, .send none => some (State.finish { s with out := s.out ++ [(socket, pkt)] } (.ok ()))
  | _, _ => none

/-- A relay's own steps; the ones under the lock are in `step`. -/
def relayBody (rel : Relay) : RelayEvent → Option Relay
  | .recv d =>
    match rel.stage with
    | .receiving => some { rel with stage := .replying d, received := rel.received ++ [d] }
    | _ => none
  | .sendTo failed =>
    match rel.stage, failed with
    | .replying d, none => some { rel with stage := .receiving, sent := rel.sent ++ [(rel.client, d)] }
    | .replying d, some _ => some { rel with stage := .leaving, sent := rel.sent ++ [(rel.client, d)] }
    | _, _ => none
  | .recvError _ =>
    match rel.stage with
    | .receiving => some { rel with stage := .leaving }
    | _ => none
  | .timeout =>
    match rel.stage with
    | .receiving => some { rel with stage := .leaving }
    | _ => none
  | .lock => none
  | .remove => none

def lockRelay (s : State) (r : RelayId) (rel : Relay) : Option State :=
  if s.holder = none ∧ rel.stage = .leaving then some { s with holder := some (.relay r) } else none

def removeSession (s : State) (r : RelayId) (rel : Relay) : Option State :=
  if s.holder = some (.relay r) then
    some { s with holder := none, sessions := s.sessions.erase rel.client, relays := s.relays.set r { rel with stage := .done } }
  else none

def step (h : StealthConnectionHandler) (s : State) : Event → Option State
  | .arrive pkt (.ok ()) => some { s with waiting := s.waiting ++ [pkt] }
  | .arrive pkt (.error refusal) => some { s with results := s.results ++ [.error (refusal.error pkt.client.ip)] }
  | .lock i =>
    match s.waiting[i]?, s.holder with
    | some pkt, none =>
      let place := (s.sessions.lookup pkt.client).elim .binding Section.sending
      some { s with holder := some (.packet pkt place), waiting := s.waiting.eraseIdx i }
    | _, _ => none
  | .packet e =>
    match s.holder with
    | some (.packet pkt place) => handleUdpPacket h s pkt place e
    | _ => none
  | .relay r .lock => (s.relays[r]?).bind (lockRelay s r)
  | .relay r .remove => (s.relays[r]?).bind (removeSession s r)
  | .relay r e => (s.relays[r]?).bind (fun rel => (relayBody rel e).map (fun rel' => { s with relays := s.relays.set r rel' }))

abbrev run (h : StealthConnectionHandler) (es : List Event) : Option State := Transitions.run (step h) init es

end GscFq.UdpSessions
