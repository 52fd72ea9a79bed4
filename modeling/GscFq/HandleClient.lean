import GscFq.ServerHandshake

namespace GscFq

open ByteStream

namespace HandleClient

abbrev ListenerId := ℕ

inductive Transport where
  | tcp
  | udp
  deriving DecidableEq, Repr

/-- Where a `handle_client` task stands: before its first frame, in the loop that binds the ports
(`todo` are the configurations still to come), in its main loop, past it, or at its end. -/
inductive Stage where
  | hello
  | bindTcp (todo : List ReverseProxyConfig)
  | bindUdp (port : UInt16) (todo : List ReverseProxyConfig)
  | serving
  | leaving
  | returned (result : Except AppError Unit)
  deriving DecidableEq

/-- `checkedAt`, `registeredAt` and `requestAt` are history: the clock at the TOTP check, and the
instants at which the session was stored and a tunnel request was last taken up. -/
structure Task where
  addr : SocketAddr
  control : Stream IoError
  stage : Stage
  sent : List ServerHello
  wire : Bytes
  proxies : List ReverseProxyConfig
  spawned : List ListenerId
  checkedAt : Option UInt64
  registeredAt : Option ℕ
  requestAt : Option ℕ
  deriving DecidableEq

def Task.start (addr : SocketAddr) : Task := ⟨addr, ⟨[], none⟩, .hello, [], [], [], [], none, none, none⟩

inductive Event where
  | recv (chunk : Bytes)
  | close (e : IoError)
  | hello (now stamp : UInt64) (broken : Option IoError)
  | bindTcp (bound : Bool)
  | bindUdp (bound : Bool)
  | store
  | request (opened : Bool)
  | inbound
  | disconnect
  | leave
  deriving DecidableEq

inductive Effect where
  | none
  | spawn (transport : Transport) (port : UInt16)
  | insert
  | remove
  deriving DecidableEq

def bindIp : IpAddr := .v4 0 0 0 0

def bindAddr (port : UInt16) : String := bindIp.display ++ ":" ++ toString port.toNat

def Stage.isReturned : Stage → Bool
  | .returned _ => true
  | _ => false

def afterHello (task : Task) (now : UInt64) (r : ReverseProxyServer.HandshakeResult) : Task :=
  match r.outcome with
  | .ok proxies =>
    { task with stage := .bindTcp proxies, proxies := proxies, sent := r.sent, wire := r.wire, checkedAt := some now }
  | .error e =>
    { task with stage := .returned (.error e), sent := r.sent, wire := r.wire, checkedAt := some now }

/-- One step of `handle_client`; `instant` is the monotonic clock. A port that is bound is handed to
a listener task at once, and UDP is tried only on a port that TCP could bind. -/
def step (X : Externals) (srv : ReverseProxyServer) (instant : ℕ) (task : Task) : Event → Option (Task × Effect)
  | .recv chunk =>
    if task.stage.isReturned = false ∧ task.control.ending = none then
      some ({ task with control := task.control.push chunk }, .none)
    else none
  | .close e =>
    if task.stage.isReturned = false ∧ task.control.ending = none then
      some ({ task with control := { task.control with ending := some e } }, .none)
    else none
  | .hello now stamp broken =>
    match task.stage with
    | .hello => (srv.handshake X now stamp task.addr broken task.control).map
        (fun r => (afterHello task now r, .none))
    | _ => none
  | .bindTcp bound =>
    match task.stage with
    | .bindTcp (c :: todo) =>
      if bound then some ({ task with stage := .bindUdp c.serverPort todo }, .spawn .tcp c.serverPort)
      else some ({ task with stage := .bindTcp todo }, .none)
    | _ => none
  | .bindUdp bound =>
    match task.stage with
    | .bindUdp port todo =>
      if bound then some ({ task with stage := .bindTcp todo }, .spawn .udp port)
      else some ({ task with stage := .bindTcp todo }, .none)
    | _ => none
  | .store =>
    match task.stage with
    | .bindTcp [] => some ({ task with stage := .serving, registeredAt := some instant }, .insert)
    | _ => none
  | .request _ =>
    match task.stage with
    | .serving => some ({ task with requestAt := some instant }, .none)
    | _ => none
  | .inbound =>
    match task.stage with
    | .serving => some (task, .none)
    | _ => none
  | .disconnect =>
    match task.stage with
    | .serving => some ({ task with stage := .leaving }, .none)
    | _ => none
  | .leave =>
    match task.stage with
    | .leaving => some ({ task with stage := .returned (.ok ()) }, .remove)
    | _ => none

end HandleClient

end GscFq
