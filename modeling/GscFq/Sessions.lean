import GscFq.HandleClient
import GscFq.Transitions
import Mathlib.Data.List.AList

namespace GscFq.Sessions

open HandleClient

abbrev TaskId := ℕ

/-- The map is keyed by the text of the peer address; equal texts come from equal addresses, so the
address stands for its text. -/
abbrev ClientId := SocketAddr

/-- A listener task with the socket it owns: the port is bound as long as the task lives. -/
structure Listener where
  transport : Transport
  port : UInt16
  live : Bool
  deriving DecidableEq, Repr

def Listener.boundTo (x : Listener) : Option SocketAddr := IpAddr.parseSocketAddr (bindAddr x.port)

/-- `owner` is history: the `handle_client` task that stored the session. -/
structure ClientSession where
  proxies : List ReverseProxyConfig
  listeners : List ListenerId
  lastActivity : ℕ
  owner : TaskId
  deriving DecidableEq

abbrev Clients := AList (fun _ : ClientId => ClientSession)

/-- Tasks and listeners are numbered in the order they were spawned; `now` is the monotonic clock
in nanoseconds. -/
structure State where
  now : ℕ
  tasks : List Task
  listeners : List Listener
  clients : Clients

inductive Event where
  | advance (nanos : ℕ)
  | tick
  | accept (addr : SocketAddr)
  | task (t : TaskId) (e : HandleClient.Event)
  deriving DecidableEq

def seconds (n : ℕ) : ℕ := n * 1000000000

def idleLimit : ℕ := seconds 300

def init : State := ⟨0, [], [], ∅⟩

def abort (listeners : List Listener) (handles : List ListenerId) : List Listener :=
  listeners.mapIdx (fun l x => if l ∈ handles then { x with live := false } else x)

def State.removeClient (s : State) (id : ClientId) : State :=
  match s.clients.lookup id with
  | some session => { s with clients := s.clients.erase id, listeners := abort s.listeners session.listeners }
  | none => s

def inactive (now : ℕ) (session : ClientSession) : Bool := decide (idleLimit < now - session.lastActivity)

def State.toRemove (s : State) : List ClientId :=
  (s.clients.entries.filter (fun p => inactive s.now p.2)).map Sigma.fst

def State.cleanup (s : State) : State := s.toRemove.foldl State.removeClient s

def State.setTask (s : State) (t : TaskId) (task : Task) : State := { s with tasks := s.tasks.set t task }

def State.apply (s : State) (t : TaskId) (task : Task) : Effect → State
  | .none => s.setTask t task
  | .spawn transport port =>
    { s.setTask t { task with spawned := task.spawned ++ [s.listeners.length] } with
      listeners := s.listeners ++ [⟨transport, port, true⟩] }
  | .insert =>
    { s.setTask t task with
      clients := s.clients.insert task.addr ⟨task.proxies, task.spawned, s.now, t⟩ }
  | .remove => (s.setTask t task).removeClient task.addr

def step (X : Externals) (srv : ReverseProxyServer) (s : State) : Event → Option State
  | .advance nanos => some { s with now := s.now + nanos }
  | .tick => some s.cleanup
  | .accept addr => some { s with tasks := s.tasks ++ [.start addr] }
  | .task t e =>
    (s.tasks[t]?).bind (fun task =>
      (HandleClient.step X srv s.now task e).map (fun p => s.apply t p.1 p.2))

abbrev run (X : Externals) (srv : ReverseProxyServer) (es : List Event) : Option State :=
  Transitions.run (step X srv) init es

end GscFq.Sessions
