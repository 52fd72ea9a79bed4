import GscFq.LibraryFormats
import GscFq.RuntimeTasks
import GscFq.ValidatedStart

namespace GscFq.RuntimeTasks

open GscFq.Lists RuntimeManager

variable {X : Externals}

def Instance.failed (x : Instance) : Bool :=
  match x.stage with
  | .returned (.error _) => true
  | .panicked => true
  | _ => false

def Task.failed : Task → Bool
  | .forward f => f.instances.any Instance.failed
  | .reverseServer _ s =>
    match s.stage with
    | .returned (.error _) => true
    | _ => false
  | .reverseClient _ s =>
    match s.stage with
    | .returned (.error _) => true
    | _ => false
  | .panicked _ => true

def InstanceEvent.succeeds : InstanceEvent → Bool
  | .listen failed => failed.isNone
  | .bindUdp failed => failed.isNone
  | .stop => true
  | .panic => false

/-- No bind fails, the client comes to its check with retries left, nothing panics. -/
def succeeds (task : Task) : TaskEvent → Bool
  | .forward (.proxy _ e) => e.succeeds
  | .forward _ => true
  | .server (.bind result) => result.isOk
  | .server _ => true
  | .client .resubscribe =>
    match task with
    | .reverseClient _ s => decide (s.retryCount < ClientLoop.maxRetries)
    | _ => true
  | .client _ => true
  | .panic _ => false

def Sound (s : State) : Event → Prop
  | .task k e => ∀ task, s.tasks[k]? = some task → succeeds task e = true
  | .poll => True

def sampleSignal : List Event :=
  [.task 0 (.forward .spawn), .task 0 (.forward (.proxy 0 (.listen none))), .task 0 (.forward (.proxy 0 (.bindUdp none))),
    .task 0 (.forward .signal), .task 0 (.forward (.proxy 0 .stop)), .task 0 (.forward .join), .poll]

end GscFq.RuntimeTasks
