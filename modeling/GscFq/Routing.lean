import GscFq.ClientTunnels
import GscFq.HandleClient

/-!
The way of user connections through one session: the listener tasks, the channel into the main loop
of `handle_client`, the tunnel tasks it spawns and the client at the other end. A listener holds what
it has accepted while the channel is full, and the loop holds one request while it opens a stream.
Connections are numbered in the order they are accepted.
-/

namespace GscFq.Routing

open ByteStream HandleClient Tunnel

abbrev ConnId := ℕ

inductive Body where
  | tcp (conn : ConnId)
  | udp (data : Bytes) (peer : SocketAddr)
  deriving DecidableEq

structure TunnelRequest where
  targetPort : UInt16
  body : Body
  deriving DecidableEq

structure Listener where
  transport : Transport
  port : UInt16
  held : Option Body
  live : Bool
  deriving DecidableEq

/-- `failed` is a tunnel task that could not write all of its frame and is gone with its connection. -/
inductive StreamStage where
  | opened
  | carrying
  | failed
  deriving DecidableEq

/-- A tunnel stream with both ends: the request of the server's task, the bytes it wrote that have
not arrived, and the task of the client. -/
structure TunnelStream where
  request : TunnelRequest
  stage : StreamStage
  inFlight : Bytes
  client : ClientTunnels.Task
  deriving DecidableEq

structure State where
  accepted : List UInt16
  listeners : List Listener
  queue : List TunnelRequest
  current : Option TunnelRequest
  streams : List TunnelStream
  dropped : List ConnId
  looping : Bool
  channelOpen : Bool
  deriving DecidableEq

inductive Event where
  | accept (l : ℕ)
  | datagram (l : ℕ) (data : Bytes) (peer : SocketAddr)
  | send (l : ℕ)
  | abort (l : ℕ)
  | receive
  | outbound (net : Option LocalNet)
  | header (k : ℕ)
  | headerFails (k n : ℕ)
  | relay (k : ℕ) (bytes : Bytes)
  | deliver (k n : ℕ)
  | client (k : ℕ) (e : ClientTunnels.Event)
  | leaveLoop
  | closeChannel
  deriving DecidableEq

def channelCapacity : ℕ := 256

def Body.conns : Body → List ConnId
  | .tcp conn => [conn]
  | .udp _ _ => []

def openListeners : List ReverseProxyConfig → List (Bool × Bool) → List Listener
  | c :: configs, (tcp, udp) :: bound =>
    (if tcp then ⟨.tcp, c.serverPort, none, true⟩ :: (if udp then [⟨.udp, c.serverPort, none, true⟩] else [])
      else []) ++ openListeners configs bound
  | _, _ => []

def init (proxies : List ReverseProxyConfig) (bound : List (Bool × Bool)) : State :=
  ⟨[], openListeners proxies bound, [], none, [], [], true, true⟩

def openFrame (request : TunnelRequest) : Bytes :=
  match request.body with
  | .tcp _ => tcpHeader request.targetPort
  | .udp data _ => udpRequest request.targetPort data

def dropHeld (s : State) (l : ℕ) (x : Listener) : State :=
  { s with
    listeners := s.listeners.set l { x with held := none, live := false }
    dropped := s.dropped ++ (x.held.map Body.conns).getD [] }

def listenerStep (s : State) (l : ℕ) (x : Listener) : Event → Option State
  | .accept _ =>
    if x.live = true ∧ x.transport = .tcp ∧ x.held = none then
      some { s with
        accepted := s.accepted ++ [x.port]
        listeners := s.listeners.set l { x with held := some (.tcp s.accepted.length) } }
    else none
  | .datagram _ data peer =>
    if x.live = true ∧ x.transport = .udp ∧ x.held = none ∧ data.length ≤ 65535 then
      some { s with listeners := s.listeners.set l { x with held := some (.udp data peer) } }
    else none
  | .send _ =>
    match x.held with
    | none => none
    | some body =>
      if s.channelOpen = false then some (dropHeld s l x)
      else if s.queue.length < channelCapacity then
        some { s with
          listeners := s.listeners.set l { x with held := none }
          queue := s.queue ++ [⟨x.port, body⟩] }
      else none
  | .abort _ => if x.live = true then some (dropHeld s l x) else none
  | _ => none

def streamStep (configs : List ReverseProxyConfig) (t : TunnelStream) : Event → Option TunnelStream
  | .header _ =>
    if t.stage = .opened then some { t with stage := .carrying, inFlight := openFrame t.request } else none
  | .relay _ bytes =>
    match t.request.body with
    | .tcp _ => if t.stage = .carrying then some { t with inFlight := t.inFlight ++ bytes } else none
    | .udp _ _ => none
  | .deliver _ n =>
    if n ≤ t.inFlight.length then
      (t.client.step configs (.recv 0 (t.inFlight.take n))).map
        (fun client => { t with client := client, inFlight := t.inFlight.drop n })
    else none
  | .client _ (.recv _ _) => none
  | .client _ e => (t.client.step configs e).map (fun client => { t with client := client })
  | _ => none

def updateStream (configs : List ReverseProxyConfig) (s : State) (k : ℕ) (e : Event) : Option State :=
  (s.streams[k]?).bind (fun t => (streamStep configs t e).map (fun t' => { s with streams := s.streams.set k t' }))

def failHeader (s : State) (k n : ℕ) : Option State :=
  (s.streams[k]?).bind (fun t =>
    if t.stage = .opened ∧ n < (openFrame t.request).length then
      some { s with
        streams := s.streams.set k { t with stage := .failed, inFlight := (openFrame t.request).take n }
        dropped := s.dropped ++ t.request.body.conns }
    else none)

def step (configs : List ReverseProxyConfig) (s : State) : Event → Option State
  | .accept l => (s.listeners[l]?).bind (fun x => listenerStep s l x (.accept l))
  | .datagram l data peer => (s.listeners[l]?).bind (fun x => listenerStep s l x (.datagram l data peer))
  | .send l => (s.listeners[l]?).bind (fun x => listenerStep s l x (.send l))
  | .abort l => (s.listeners[l]?).bind (fun x => listenerStep s l x (.abort l))
  | .receive =>
    match s.queue, s.current with
    | request :: queue, none =>
      if s.looping = true then some { s with queue := queue, current := some request } else none
    | _, _ => none
  | .outbound net =>
    match s.current, net with
    | some request, some net => some { s with
        current := none
        streams := s.streams ++ [⟨request, .opened, [], ⟨⟨[], none⟩, net, none⟩⟩] }
    | some request, none => some { s with current := none, dropped := s.dropped ++ request.body.conns }
    | none, _ => none
  | .header k => updateStream configs s k (.header k)
  | .headerFails k n => failHeader s k n
  | .relay k bytes => updateStream configs s k (.relay k bytes)
  | .deliver k n => updateStream configs s k (.deliver k n)
  | .client k e => updateStream configs s k (.client k e)
  | .leaveLoop => if s.looping = true ∧ s.current = none then some { s with looping := false } else none
  | .closeChannel =>
    if s.looping = false ∧ s.channelOpen = true then
      some { s with channelOpen := false, queue := [], dropped := s.dropped ++ s.queue.flatMap (·.body.conns) }
    else none

end GscFq.Routing
