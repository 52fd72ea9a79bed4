import GscFq.ClientLoop
import GscFq.Lists
import GscFq.Runtime
import GscFq.ServerLoop

/-!
`RuntimeManager::run` after the start of its services: the tasks it spawned, each with what it runs, and
the wait for the first of them to finish.
-/

namespace GscFq.RuntimeTasks

open RuntimeManager

inductive InstanceStage where
  | starting
  | listening
  | serving
  | returned (result : Except AppError Unit)
  | panicked
  deriving DecidableEq

structure Instance where
  proxy : ProxyInstance
  stage : InstanceStage

/-- The calls of `create_optimized_listener` that can fail, and `local_addr`. -/
inductive ListenCall where
  | socket
  | reuseAddress
  | bind
  | listen
  | nonblocking
  | register
  | localAddr
  deriving DecidableEq, Repr

def listenFailed (reason : String) : AppError := .network (.listenFailed reason)

def listenError (bindAddr : SocketAddr) (e : IoError) : ListenCall → AppError
  | .socket => .io e
  | .reuseAddress => .network (.invalidSocketOption ("set_reuse_address: " ++ e.text))
  | .bind => listenFailed ("Failed to bind to " ++ bindAddr.display ++ ": " ++ e.text)
  | .listen => listenFailed ("Failed to listen on " ++ bindAddr.display ++ ": " ++ e.text)
  | .nonblocking => listenFailed ("set_nonblocking: " ++ e.text)
  | .register => listenFailed ("Failed to create TcpListener: " ++ e.text)
  | .localAddr => listenFailed ("Failed to get local address: " ++ e.text)

inductive InstanceEvent where
  | listen (failed : Option (ListenCall × IoError))
  | bindUdp (failed : Option IoError)
  | stop
  | panic
  deriving DecidableEq

/-- `ProxyInstance::start`; its loop ends with the shutdown message, which `stopping` says was sent. -/
def instanceStep (stopping : Bool) (x : Instance) : InstanceEvent → Option Instance
  | .listen failed =>
    match x.stage, failed with
    | .starting, none => some { x with stage := .listening }
    | .starting, some (call, e) => some { x with stage := .returned (.error (listenError x.proxy.bindAddr e call)) }
    | _, _ => none
  | .bindUdp failed =>
    match x.stage, failed with
    | .listening, none => some { x with stage := .serving }
    | .listening, some e =>
      let reason := "Failed to bind UDP port " ++ x.proxy.bindAddr.display ++ ": " ++ e.text
      some { x with stage := .returned (.error (listenFailed reason)) }
    | _, _ => none
  | .stop =>
    match x.stage with
    | .serving => if stopping then some { x with stage := .returned (.ok ()) } else none
    | _ => none
  | .panic =>
    match x.stage with
    | .returned _ => none
    | .panicked => none
    | _ => some { x with stage := .panicked }

def Instance.ended (x : Instance) : Bool :=
  match x.stage with
  | .returned _ => true
  | .panicked => true
  | _ => false

/-- `ProxyServer::start`: before its instances are spawned, at the wait for the signal, at the wait for the
instances, and at its end, which is `Ok` always. -/
inductive ForwardStage where
  | starting
  | waiting
  | stopping
  | returned
  deriving DecidableEq, Repr

structure Forward where
  instances : List Instance
  stage : ForwardStage

inductive ForwardEvent where
  | spawn
  | proxy (i : ℕ) (e : InstanceEvent)
  | signal
  | join
  deriving DecidableEq

/-- How an instance's task ends is not looked at. -/
def forwardStep (f : Forward) : ForwardEvent → Option Forward
  | .spawn => if f.stage = .starting then some { f with stage := .waiting } else none
  | .proxy i e =>
    if f.stage = .starting then none
    else
      (f.instances[i]?).bind (fun x => (instanceStep (f.stage == .stopping) x e).map (fun x' =>
        { f with instances := f.instances.set i x' }))
  | .signal => if f.stage = .waiting then some { f with stage := .stopping } else none
  | .join => if f.stage = .stopping ∧ f.instances.all Instance.ended then some { f with stage := .returned } else none

inductive Task where
  | forward (f : Forward)
  | reverseServer (srv : ReverseProxyServer) (s : ServerLoop.State)
  | reverseClient (client : ReverseProxyClient) (s : ClientLoop.State)
  | panicked (text : String)

def Task.start : Service → Task
  | .forward server => .forward ⟨server.proxyInstances.map (fun x => ⟨x, .starting⟩), .starting⟩
  | .reverseServer srv => .reverseServer srv ServerLoop.init
  | .reverseClient client => .reverseClient client (ClientLoop.start 0)

/-- A finished task as its `JoinHandle` shows it: the error of a service is only printed. -/
def Task.joined : Task → Option (Except String Unit)
  | .forward f => if f.stage = .returned then some (.ok ()) else none
  | .reverseServer _ s =>
    match s.stage with
    | .returned _ => some (.ok ())
    | _ => none
  | .reverseClient _ s =>
    match s.stage with
    | .returned _ => some (.ok ())
    | _ => none
  | .panicked text => some (.error text)

inductive TaskEvent where
  | forward (e : ForwardEvent)
  | server (e : ServerLoop.Event)
  | client (e : ClientLoop.Event)
  | panic (text : String)
  deriving DecidableEq

def taskStep (X : Externals) (task : Task) : TaskEvent → Option Task
  | .forward e =>
    match task with
    | .forward f => (forwardStep f e).map Task.forward
    | _ => none
  | .server e =>
    match task with
    | .reverseServer srv s => (ServerLoop.step X srv s e).map (Task.reverseServer srv)
    | _ => none
  | .client e =>
    match task with
    | .reverseClient client s => (ClientLoop.step client s e).map (Task.reverseClient client)
    | _ => none
  | .panic text => if task.joined.isNone then some (.panicked text) else none

structure State where
  tasks : List Task
  outcome : Option (Except AppError Unit)

inductive Event where
  | task (k : ℕ) (e : TaskEvent)
  | poll
  deriving DecidableEq

/-- An error before the wait ends `run` at once. -/
def init (env : Option String) (config : ConfigFile) : State :=
  let started := RuntimeManager.run env config
  match started.outcome with
  | .ok () => ⟨started.services.map Task.start, none⟩
  | .error e => ⟨started.services.map Task.start, some (.error e)⟩

/-- The first finished task in the order of the handles decides what `run` returns. -/
def selectAll (tasks : List Task) : Option (Except AppError Unit) :=
  (tasks.findSome? Task.joined).map (fun
    | .ok () => .ok ()
    | .error e => .error (.internal ("Service task failed: " ++ e)))

def step (X : Externals) (s : State) (e : Event) : Option State :=
  match s.outcome, e with
  | some _, _ => none
  | none, .task k e =>
    (s.tasks[k]?).bind (fun task => (taskStep X task e).map (fun task' => { s with tasks := s.tasks.set k task' }))
  | none, .poll => (selectAll s.tasks).map (fun outcome => { s with outcome := some outcome })

abbrev run (X : Externals) (env : Option String) (config : ConfigFile) (es : List Event) : Option State :=
  Transitions.run (step X) (init env config) es

end GscFq.RuntimeTasks
