import GscFq.InterleavedLoops
import GscFq.StreamCopies

/-!
The copies in both directions that go through buffers: `zero_copy_bidirectional` where there is no splice, and those of
`high_perf`. Each direction is a task with the halves of the sockets it uses.
-/

namespace GscFq.UserSpace

open ByteStream CopyLoop Loops StreamIo

inductive Peer where
  | client
  | server
  deriving DecidableEq, Repr

inductive Direction where
  | clientToServer
  | serverToClient
  deriving DecidableEq, Repr

instance : Fintype Direction := ⟨{.clientToServer, .serverToClient}, fun d => by cases d <;> simp⟩

/-- What the task of a direction meets: the stream it reads and the calls of the sink that fail. -/
structure Ends where
  reader : Reader IoError
  failures : List (Option (ℕ × IoError))

def Ends.io (x : Ends) : Io IoError := .start x.reader x.failures

/-- How the task of a direction copies; its result is the count and what it left the two ends in. -/
structure Copier where
  State : Type
  loop : Loop State (ℕ × Io IoError)
  start : Io IoError → State

/-- An error is logged and counts as no bytes. -/
def counted {ε : Type} : Except ε ℕ × Io IoError → ℕ × Io IoError
  | (.ok bytes, io) => (bytes, io)
  | (.error _, io) => (0, io)

def bulk (bufferSize : ℕ) : Copier where
  State := CopyLoop.State
  loop := (CopyLoop.loop ⟨bufferSize, 2 * 1024 * 1024, true, "Bulk copy error: "⟩).map counted
  start io := ⟨io, 0, 0⟩

/-- `tokioCopy` is `tokio::io::copy`. -/
def tokio (tokioCopy : Io IoError → Except IoError ℕ × Io IoError) : Copier where
  State := Io IoError
  loop := .once (fun io => counted (tokioCopy io))
  start io := io

structure Buffered where
  io : Io IoError
  total : ℕ

def bufferedBody (s : Buffered) : Turn Buffered (ℕ × Io IoError) :=
  match s.io.read (64 * 1024) with
  | (.data [], io) => .done (s.total, io)
  | (.data (b :: bs), io) =>
    match io.writeAll (b :: bs) with
    | (.error _, io) => .done (s.total, io)
    | (.ok _, io) => .again ⟨io, s.total + (b :: bs).length⟩
  | (.wouldBlock, io) => .done (s.total, io)
  | (.error _, io) => .done (s.total, io)

inductive BufferedTurns (s : Buffered) : Turn Buffered (ℕ × Io IoError) → Prop
  | ended {io : Io IoError} (hr : s.io.read (64 * 1024) = (.data [], io)) : BufferedTurns s (.done (s.total, io))
  | unwritten {io io' : Io IoError} {d : Bytes} {e : IoError} (hr : s.io.read (64 * 1024) = (.data d, io))
      (hw : Writes d io (.error e, io')) : BufferedTurns s (.done (s.total, io'))
  | copied {io io' : Io IoError} {d : Bytes} (hd : d ≠ []) (hr : s.io.read (64 * 1024) = (.data d, io))
      (hw : Writes d io (.ok (), io')) : BufferedTurns s (.again ⟨io', s.total + d.length⟩)
  | blocked {io : Io IoError} (hr : s.io.read (64 * 1024) = (.wouldBlock, io)) : BufferedTurns s (.done (s.total, io))
  | failed {io : Io IoError} {e : IoError} (hr : s.io.read (64 * 1024) = (.error e, io)) :
      BufferedTurns s (.done (s.total, io))

theorem bufferedBody_turns (s : Buffered) : BufferedTurns s (bufferedBody s) := by
  unfold bufferedBody
  split
  · rename_i io hr
    exact .ended hr
  · rename_i b bs io hr
    have hwrite := io.writeAll_writes (b :: bs)
    split
    · rename_i e io' hw
      rw [hw] at hwrite
      exact .unwritten hr hwrite
    · rename_i u io' hw
      rw [hw] at hwrite
      exact .copied (List.cons_ne_nil b bs) hr hwrite
  · rename_i io hr
    exact .blocked hr
  · rename_i e io hr
    exact .failed hr

theorem reads_of {cap : ℕ} {io : Io IoError} {r : ReadResult IoError × Io IoError} (h : io.read cap = r) :
    Reads cap io r := h ▸ io.read_reads cap

theorem bufferedBody_decreases (s s' : Buffered) (h : bufferedBody s = .again s') :
    s'.io.reader.size < s.io.reader.size := by
  have hturn := bufferedBody_turns s
  rw [h] at hturn
  cases hturn with
  | @copied io io' d hd hr hw =>
    have hlt := (reads_of hr).size_lt (.inr ⟨d, rfl, hd⟩)
    cases hw <;> exact hlt

def buffered : Copier where
  State := Buffered
  loop := ⟨bufferedBody, fun s => s.io.reader.size, bufferedBody_decreases⟩
  start io := ⟨io, 0⟩

abbrev Tasks (k : Copier) := Direction → Task k.State (ℕ × Io IoError)

/-- Both tasks as they are spawned. -/
def spawned (k : Copier) (sockets : Direction → Ends) : Tasks k := fun d => .running (k.start (sockets d).io)

/-- What the join of the two tasks gives, once it does. -/
def returned {k : Copier} (tasks : Tasks k) : Option (ℕ × ℕ) :=
  match tasks .clientToServer, tasks .serverToClient with
  | .returned r₁, .returned r₂ => some (r₁.1, r₂.1)
  | _, _ => none

/-- On macOS, on Windows and where neither they nor Linux is the platform. -/
def zeroCopyBidirectional (setNodelay : Peer → Except IoError Unit) (sockets : Direction → Ends) :
    Except AppError (Tasks (bulk (256 * 1024))) := do
  (setNodelay .client).mapError AppError.io
  (setNodelay .server).mapError AppError.io
  return spawned (bulk (256 * 1024)) sockets

section

variable (tokioCopy : Io IoError → Except IoError ℕ × Io IoError)

def optimizedBidirectional (sockets : Direction → Ends) : Tasks (tokio tokioCopy) := spawned (tokio tokioCopy) sockets

def adaptiveCopy (sockets : Direction → Ends) : Tasks (tokio tokioCopy) := optimizedBidirectional tokioCopy sockets

def bufferedBidirectional (sockets : Direction → Ends) : Tasks buffered := spawned buffered sockets

inductive Variant where
  | zeroCopy
  | adaptive
  | buffered
  deriving DecidableEq, Repr

def Variant.copier : Variant → Copier
  | .zeroCopy => bulk (256 * 1024)
  | .adaptive => tokio tokioCopy
  | .buffered => UserSpace.buffered

def Variant.start (v : Variant) (setNodelay : Peer → Except IoError Unit) (sockets : Direction → Ends) :
    Except AppError (Tasks (v.copier tokioCopy)) :=
  match v with
  | .zeroCopy => zeroCopyBidirectional setNodelay sockets
  | .adaptive => .ok (adaptiveCopy tokioCopy sockets)
  | .buffered => .ok (bufferedBidirectional sockets)

end

variable {tokioCopy : Io IoError → Except IoError ℕ × Io IoError}

/-- The direction meets no failure, and its source is never found empty-handed before its end. -/
structure Ends.Reliable (x : Ends) : Prop where
  sink : x.failures = []
  source : x.reader.ending = none
  ready : Item.wouldBlock ∉ x.reader.items

section

variable (hcopied : ∀ reader failures, Copied reader.bytes (tokioCopy (.start reader failures)))
  (hends : ∀ x : Ends, x.Reliable → ∃ n, (tokioCopy x.io).1 = .ok n)

include hcopied hends

end

end GscFq.UserSpace
