import GscFq.Errors
import GscFq.StreamIo
import GscFq.Transitions

/-!
`AdaptiveForwarder` of the resilience module. The two tasks of a forwarding call take their turns in any order; what a
task does between two awaits is one turn.
-/

namespace GscFq

open ByteStream StreamIo

/-- The round trips are in nanoseconds. -/
structure ConnectionQuality where
  rttHistory : List ℕ
  errorCount : ℕ
  deriving DecidableEq, Repr

namespace ConnectionQuality

def new : ConnectionQuality := ⟨[], 0⟩

def recordRtt (q : ConnectionQuality) (rtt : ℕ) : ConnectionQuality :=
  let history := q.rttHistory ++ [rtt]
  { q with rttHistory := if 20 < history.length then history.tail else history }

def getAverageRtt (q : ConnectionQuality) : Option ℕ :=
  if q.rttHistory = [] then none else some (q.rttHistory.sum / q.rttHistory.length)

def recordError (q : ConnectionQuality) : ConnectionQuality := { q with errorCount := q.errorCount + 1 }

end ConnectionQuality

namespace AdaptiveForwarder

def minBufferSize : ℕ := 8 * 1024

def maxBufferSize : ℕ := 512 * 1024

structure BufferSize where
  size : ℕ
  least : minBufferSize ≤ size
  most : size ≤ maxBufferSize
  deriving DecidableEq, Repr

def newSize (rtt currentSize minSize maxSize : ℕ) : ℕ :=
  if rtt < 50 * 1000000 then min (currentSize * 2) maxSize
  else if 200 * 1000000 < rtt then max (currentSize / 2) minSize
  else currentSize

theorem newSize_range (rtt : ℕ) (b : BufferSize) :
    minBufferSize ≤ newSize rtt b.size minBufferSize maxBufferSize ∧
      newSize rtt b.size minBufferSize maxBufferSize ≤ maxBufferSize := by
  have hleast := b.least
  have hmost := b.most
  unfold newSize
  split
  · exact ⟨le_min (by omega) (hleast.trans hmost), min_le_right _ _⟩
  · split
    · exact ⟨le_max_right _ _, max_le (by omega) (hleast.trans hmost)⟩
    · exact ⟨hleast, hmost⟩

def BufferSize.adjusted (b : BufferSize) (rtt : ℕ) : BufferSize :=
  ⟨newSize rtt b.size minBufferSize maxBufferSize, (newSize_range rtt b).1, (newSize_range rtt b).2⟩

theorem BufferSize.pos (b : BufferSize) : 0 < b.size := Nat.lt_of_lt_of_le (by decide) b.least

end AdaptiveForwarder

structure AdaptiveForwarder where
  quality : ConnectionQuality
  bufferSize : AdaptiveForwarder.BufferSize
  deriving DecidableEq, Repr

namespace AdaptiveForwarder

def new : AdaptiveForwarder := ⟨.new, ⟨64 * 1024, by decide, by decide⟩⟩

inductive Peer where
  | client
  | remote
  deriving DecidableEq, Repr

inductive Direction where
  | clientToRemote
  | remoteToClient
  deriving DecidableEq, Repr

/-- The stream whose read half the task of the direction has. -/
def Direction.source : Direction → Peer
  | .clientToRemote => .client
  | .remoteToClient => .remote

/-- The stream whose write half the task of the direction has. -/
def Direction.sink : Direction → Peer
  | .clientToRemote => .client
  | .remoteToClient => .remote

/-- The last three stages are within `adjust_buffer_size`. -/
inductive Stage where
  | starting
  | reading (buffer : BufferSize)
  | writing (buffer : BufferSize) (d : Bytes)
  | recording (buffer : BufferSize) (n : ℕ)
  | averaging (buffer : BufferSize)
  | resizing (buffer : BufferSize) (rtt : ℕ)
  | storing (buffer newSize : BufferSize)
  | finished
  deriving DecidableEq, Repr

structure Task where
  stage : Stage
  totalBytes : ℕ
  deriving DecidableEq, Repr

structure State where
  forwarder : AdaptiveForwarder
  streams : Peer → Io IoError
  tasks : Direction → Task

def optimizeTcpSocket (setNodelay : Except IoError Unit) : Except AppError Unit :=
  setNodelay.mapError (forwardingError "Failed to set nodelay: ")

/-- `forward_adaptive` up to the start of its tasks. -/
def forwardAdaptive (f : AdaptiveForwarder) (setNodelay : Peer → Except IoError Unit) (streams : Peer → Io IoError) :
    Except AppError State := do
  optimizeTcpSocket (setNodelay .client)
  optimizeTcpSocket (setNodelay .remote)
  return ⟨f, streams, fun _ => ⟨.starting, 0⟩⟩

def State.setStream (s : State) (p : Peer) (io : Io IoError) : State := { s with streams := Function.update s.streams p io }

def State.goes (s : State) (d : Direction) (stage : Stage) : State :=
  { s with tasks := Function.update s.tasks d { s.tasks d with stage := stage } }

def State.counts (s : State) (d : Direction) (n : ℕ) : State :=
  { s with tasks := Function.update s.tasks d { s.tasks d with totalBytes := (s.tasks d).totalBytes + n } }

/-- A turn of the task of the direction; `elapsed` is the time since it began to read. -/
def turn (s : State) (d : Direction) (elapsed : ℕ) : Option State :=
  match (s.tasks d).stage with
  | .starting => some (s.goes d (.reading s.forwarder.bufferSize))
  | .reading buffer =>
    match (s.streams d.source).read buffer.size with
    | (.data [], io) => some ((s.setStream d.source io).goes d .finished)
    | (.data (b :: bs), io) => some ((s.setStream d.source io).goes d (.writing buffer (b :: bs)))
    | (.wouldBlock, io) => some (s.setStream d.source io)
    | (.error _, io) =>
      let s := s.setStream d.source io
      some ({ s with forwarder := { s.forwarder with quality := s.forwarder.quality.recordError } }.goes d .finished)
  | .writing buffer bs =>
    match (s.streams d.sink).writeAll bs with
    | (.error _, io) => some ((s.setStream d.sink io).goes d .finished)
    | (.ok _, io) => some ((s.setStream d.sink io).goes d (.recording buffer bs.length))
  | .recording buffer n =>
    let s := { s with forwarder := { s.forwarder with quality := s.forwarder.quality.recordRtt elapsed } }
    some ((s.counts d n).goes d (.averaging buffer))
  | .averaging buffer =>
    match s.forwarder.quality.getAverageRtt with
    | none => some (s.goes d (.reading buffer))
    | some rtt => some (s.goes d (.resizing buffer rtt))
  | .resizing buffer rtt =>
    let newSize := s.forwarder.bufferSize.adjusted rtt
    if newSize = s.forwarder.bufferSize then some (s.goes d (.reading buffer))
    else some (s.goes d (.storing buffer newSize))
  | .storing buffer newSize =>
    some ({ s with forwarder := { s.forwarder with bufferSize := newSize } }.goes d (.reading buffer))
  | .finished => none

/-- `others` is what the other calls of the same forwarder do to it. -/
inductive Event where
  | turn (d : Direction) (elapsed : ℕ)
  | others (f : AdaptiveForwarder)
  deriving DecidableEq, Repr

def step (s : State) : Event → Option State
  | .turn d elapsed => turn s d elapsed
  | .others f => some { s with forwarder := f }

abbrev run (s : State) (es : List Event) : Option State := Transitions.run step s es

def State.returned (s : State) : Option (ℕ × ℕ) :=
  if (s.tasks .clientToRemote).stage = .finished ∧ (s.tasks .remoteToClient).stage = .finished then
    some ((s.tasks .clientToRemote).totalBytes, (s.tasks .remoteToClient).totalBytes)
  else none

end AdaptiveForwarder

end GscFq
