import GscFq.Broadcast
import GscFq.Sessions

namespace GscFq.ServerLoop

open Broadcast

/-- Where `ReverseProxyServer::start` stands: before the control port is bound, in its accept loop
with the receiver it subscribed, past the loop, or at its end. -/
inductive Stage where
  | binding
  | accepting (rx : Receiver)
  | closing
  | returned (result : Except AppError Unit)
  deriving DecidableEq

/-- `sessions` is what the spawned tasks work on, the map of the clients with them. -/
structure State where
  sessions : Sessions.State
  channel : Channel
  stage : Stage

inductive Event where
  | bind (result : Except IoError Unit)
  | session (e : Sessions.Event)
  | acceptError
  | shutdown
  | stop
  | close
  deriving DecidableEq

def init : State := ⟨Sessions.init, ⟨1, 0⟩, .binding⟩

def Stage.isAccepting : Stage → Bool
  | .accepting _ => true
  | _ => false

/-- The loop accepts a connection. The spawned tasks are detached: they, the cleanup task and the
clock take their steps at every stage, also after `start` has returned. -/
def admits (stage : Stage) : Sessions.Event → Bool
  | .accept _ => stage.isAccepting
  | _ => true

/-- What follows the accept loop, `close`, takes the lock of the map and counts its entries for a
message. -/
def step (X : Externals) (srv : ReverseProxyServer) (s : State) : Event → Option State
  | .bind result =>
    match s.stage, result with
    | .binding, .ok () => some { s with stage := .accepting s.channel.subscribe }
    | .binding, .error e => some { s with stage := .returned (.error (.io e)) }
    | _, _ => none
  | .session e =>
    if admits s.stage e then
      (Sessions.step X srv s.sessions e).map (fun sessions => { s with sessions := sessions })
    else none
  | .acceptError => if s.stage.isAccepting then some s else none
  | .shutdown => some { s with channel := s.channel.send }
  | .stop =>
    match s.stage with
    | .accepting rx => if s.channel.pending rx then some { s with stage := .closing } else none
    | _ => none
  | .close =>
    match s.stage with
    | .closing => some { s with stage := .returned (.ok ()) }
    | _ => none

abbrev run (X : Externals) (srv : ReverseProxyServer) (es : List Event) : Option State :=
  Transitions.run (step X srv) init es

variable {X : Externals} {srv : ReverseProxyServer}

end GscFq.ServerLoop
