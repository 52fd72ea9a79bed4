import GscFq.Confinement
import GscFq.Lists
import GscFq.Routing

/-!
The datagrams of one session, there and back: over the tunnels of the session, the loop in which the
task of a datagram reads what the client writes and sends each response to the datagram's peer. A
failed `send_to` loses its response and the loop goes on.
-/

namespace GscFq.UdpExchange

open ByteStream HandleClient GscFq.Lists Routing Tunnel

structure Datagram where
  port : UInt16
  peer : SocketAddr
  data : Bytes
  deriving DecidableEq

/-- A datagram sent from the socket of its port by the task of a stream. -/
structure Reply where
  stream : ℕ
  datagram : Datagram
  deriving DecidableEq

/-- What the task of a datagram has of its stream: the bytes that arrived, those it has not read,
the responses it has read, and whether it has left its loop. -/
structure Reader where
  arrived : Bytes
  unread : Bytes
  responses : List Bytes
  left : Bool

structure State where
  session : Routing.State
  reader : ℕ → Reader
  received : List Datagram
  sent : List Reply

inductive Event where
  | session (e : Routing.Event)
  | arrive (k n : ℕ)
  | respond (k : ℕ) (sent : Bool)
  | leave (k : ℕ)
  deriving DecidableEq

def Reader.fresh : Reader := ⟨[], [], [], false⟩

def init (proxies : List ReverseProxyConfig) (bound : List (Bool × Bool)) : State :=
  ⟨Routing.init proxies bound, fun _ => .fresh, [], []⟩

/-- What `recv_from` of a listener returns in an event. -/
def readBy (s : Routing.State) : Routing.Event → List Datagram
  | .datagram l data peer => (s.listeners[l]?).toList.map (fun x => ⟨x.port, peer, data⟩)
  | _ => []

def written (t : TunnelStream) : Bytes := (t.client.outcome.map (·.written)).getD []

def Reader.arrive (r : Reader) (written : Bytes) (n : ℕ) : Reader :=
  { r with
    arrived := r.arrived ++ (written.drop r.arrived.length).take n
    unread := r.unread ++ (written.drop r.arrived.length).take n }

def State.setReader (s : State) (k : ℕ) (r : Reader) : State := { s with reader := Function.update s.reader k r }

def readerStep (s : State) (k : ℕ) (t : TunnelStream) (peer : SocketAddr) : Event → Option State
  | .arrive _ n => some (s.setReader k ((s.reader k).arrive (written t) n))
  | .respond _ sent =>
    if t.stage = .carrying ∧ (s.reader k).left = false then
      (responseRound ⟨[(s.reader k).unread], none⟩).map (fun p =>
        { s.setReader k { s.reader k with
            unread := p.2.bytes
            responses := (s.reader k).responses ++ [p.1] } with
          sent := s.sent ++ if sent then [⟨k, ⟨t.request.targetPort, peer, p.1⟩⟩] else [] })
    else none
  | .leave _ => some (s.setReader k { s.reader k with left := true })
  | .session _ => none

def taskStep (s : State) (k : ℕ) (e : Event) : Option State :=
  (s.session.streams[k]?).bind (fun t =>
    match t.request.body with
    | .tcp _ => none
    | .udp _ peer => readerStep s k t peer e)

def step (configs : List ReverseProxyConfig) (s : State) : Event → Option State
  | .session e => (Routing.step configs s.session e).map (fun session =>
      { s with session := session, received := s.received ++ readBy s.session e })
  | .arrive k n => taskStep s k (.arrive k n)
  | .respond k sent => taskStep s k (.respond k sent)
  | .leave k => taskStep s k (.leave k)

end GscFq.UdpExchange
