import GscFq.Broadcast
import GscFq.RuntimeTasks

/-!
`ProxyServer::start` with its instances, their connection and datagram loops and the shutdown channel. An instance
subscribes when it is spawned, its datagram loop when its UDP socket is bound, and `recv` is over for both with a
message, with a lag or with the sender gone.
-/

namespace GscFq.ForwardServer

open Broadcast RuntimeTasks

inductive Stage where
  | starting
  | bound
  | serving
  | returned (result : Except AppError Unit)
  deriving DecidableEq

structure UdpTask where
  receiver : Receiver
  running : Bool
  packets : ℕ
  deriving DecidableEq, Repr

/-- A spawned instance; `connections` and `UdpTask.packets` count the tasks its loops have spawned. -/
structure Instance where
  proxy : ProxyInstance
  running : Bool
  stage : Stage
  receiver : Receiver
  udp : Option UdpTask
  connections : ℕ

/-- An element of `proxy_instances`. -/
structure Slot where
  proxy : ProxyInstance
  running : Bool

inductive Phase where
  | starting
  | waiting
  | stopping
  | returned
  | dropped
  deriving DecidableEq, Repr

structure State where
  bindIp : IpAddr
  proxyInstances : List Slot
  shutdown : Channel
  phase : Phase
  tasks : List Instance

inductive InstanceEvent where
  | listen (failed : Option (ListenCall × IoError))
  | bindUdp (failed : Option IoError)
  | accept
  | acceptFails
  | datagram
  | datagramFails
  | stop
  | stopUdp
  deriving DecidableEq

inductive Event where
  | spawn
  | proxy (i : ℕ) (e : InstanceEvent)
  | signal
  | join
  | drop
  deriving DecidableEq

structure ServerStatus where
  bindIp : IpAddr
  totalInstances : ℕ
  activeInstances : ℕ
  deriving DecidableEq, Repr

def State.getStatus (s : State) : ServerStatus :=
  ⟨s.bindIp, s.proxyInstances.length, s.proxyInstances.countP (·.running)⟩

def placeholderFrom (original : Slot) : Slot :=
  ⟨{ original.proxy with bindAddr := .new (.v4 0 0 0 0) 0 }, false⟩

def Slot.spawned (shutdown : Channel) (slot : Slot) : Instance :=
  ⟨slot.proxy, slot.running, .starting, shutdown.subscribe, none, 0⟩

def init (server : ProxyServer) : State :=
  ⟨server.bindIp, server.proxyInstances.map (⟨·, false⟩), ⟨1, 0⟩, .starting, []⟩

/-- Whether `recv` returns. -/
def ready (shutdown : Channel) (closed : Bool) (r : Receiver) : Bool := shutdown.pending r || closed

def UdpTask.step (shutdown : Channel) (closed : Bool) (u : UdpTask) : InstanceEvent → Option UdpTask
  | .datagram => if u.running then some { u with packets := u.packets + 1 } else none
  | .datagramFails => if u.running then some u else none
  | .stopUdp =>
    if u.running ∧ ready shutdown closed u.receiver then
      some { u with running := false, receiver := (shutdown.tryRecv u.receiver).2 }
    else none
  | _ => none

def Instance.step (shutdown : Channel) (closed : Bool) (x : Instance) : InstanceEvent → Option Instance
  | .listen failed =>
    match x.stage, failed with
    | .starting, none => some { x with running := true, stage := .bound }
    | .starting, some (call, e) =>
      some { x with running := true, stage := .returned (.error (listenError x.proxy.bindAddr e call)) }
    | _, _ => none
  | .bindUdp failed =>
    match x.stage, failed with
    | .bound, none => some { x with stage := .serving, udp := some ⟨shutdown.subscribe, true, 0⟩ }
    | .bound, some e =>
      let reason := "Failed to bind UDP port " ++ x.proxy.bindAddr.display ++ ": " ++ e.text
      some { x with stage := .returned (.error (listenFailed reason)) }
    | _, _ => none
  | .accept => if x.stage = .serving then some { x with connections := x.connections + 1 } else none
  | .acceptFails => if x.stage = .serving then some x else none
  | .stop =>
    if x.stage = .serving ∧ ready shutdown closed x.receiver then
      some { x with running := false, stage := .returned (.ok ()), receiver := (shutdown.tryRecv x.receiver).2 }
    else none
  | e => x.udp.bind (fun u => (u.step shutdown closed e).map (fun u' => { x with udp := some u' }))

def Instance.ended (x : Instance) : Bool :=
  match x.stage with
  | .returned _ => true
  | _ => false

def step (s : State) : Event → Option State
  | .spawn =>
    if s.phase = .starting then
      some { s with
        phase := .waiting
        proxyInstances := s.proxyInstances.map placeholderFrom
        tasks := s.proxyInstances.map (·.spawned s.shutdown) }
    else none
  | .proxy i e => (s.tasks[i]?).bind (fun x =>
      (x.step s.shutdown (s.phase = .dropped) e).map (fun x' => { s with tasks := s.tasks.set i x' }))
  | .signal => if s.phase = .waiting then some { s with phase := .stopping, shutdown := s.shutdown.send } else none
  | .join => if s.phase = .stopping ∧ s.tasks.all Instance.ended then some { s with phase := .returned } else none
  | .drop => if s.phase = .returned then some { s with phase := .dropped } else none

abbrev run (server : ProxyServer) (es : List Event) : Option State := Transitions.run step (init server) es

end GscFq.ForwardServer
