import GscFq.ByteStream
import GscFq.Errors
import GscFq.Transitions
import Mathlib.Data.List.AList

/-!
The sessions of `ResilientConnectionManager`. What a call does between two awaits is one step; the lock of the
sessions is held over all of `cache_data`, and `recover_connection` lets go of it before it takes the data.
-/

namespace GscFq.Resilient

open ByteStream

abbrev Uuid := ℕ

/-- A packet, and the number of the `cache_data` call that stored it. -/
structure Chunk where
  call : ℕ
  data : Bytes
  deriving DecidableEq, Repr

/-- `cached` is history: the chunks `cache_data` has stored for the session. -/
structure SessionInfo where
  id : Uuid
  clientAddr : String
  targetAddr : String
  createdAt : ℕ
  lastUpdated : ℕ
  pendingData : List Chunk
  cached : List Chunk
  deriving DecidableEq, Repr

def SessionInfo.new (id : Uuid) (clientAddr targetAddr : String) (now : ℕ) : SessionInfo :=
  ⟨id, clientAddr, targetAddr, now, now, [], []⟩

def SessionInfo.addPendingData (i : SessionInfo) (now : ℕ) (c : Chunk) : SessionInfo :=
  { i with pendingData := i.pendingData ++ [c], lastUpdated := now, cached := i.cached ++ [c] }

def SessionInfo.takePendingData (i : SessionInfo) (now : ℕ) : List Chunk × SessionInfo :=
  (i.pendingData, { i with pendingData := [], lastUpdated := now })

structure ReconnectConfig where
  maxRetries : ℕ

def ReconnectConfig.default : ReconnectConfig := ⟨5⟩

abbrev SessionId := ℕ

/-- A call within `connect_with_retry`, before or after attempt number `attempt`; a call of
`create_resilient_connection` has no pending data. -/
structure Connecting where
  session : SessionId
  pendingData : List Chunk
  attempt : ℕ
  deriving DecidableEq, Repr

/-- `infos` are the sessions in the order of their creation, also those that are no longer in the table; `found`
are the sessions of the `recover_connection` calls that have looked theirs up and not yet taken its data,
`connecting` the calls that try to connect, in the order in which they began to, and `returned` what those that are
over returned. -/
structure State where
  now : ℕ
  sessions : AList (fun _ : Uuid => SessionId)
  infos : List SessionInfo
  found : List SessionId
  connecting : List Connecting
  returned : List (SessionId × Except AppError (List Chunk))
  errorCount : ℕ
  calls : ℕ

def init : State := ⟨0, ∅, [], [], [], [], 0, 0⟩

inductive ConnectResult where
  | connected
  | failed (e : IoError)
  | timedOut
  deriving DecidableEq, Repr

/-- `create` and `find` begin the calls of `create_resilient_connection` and `recover_connection`; `attempt` and
`giveUp` are steps of the call at that place among those that try to connect. -/
inductive Event where
  | advance (nanos : ℕ)
  | create (id : Uuid) (clientAddr targetAddr : String)
  | cache (id : Uuid) (data : Bytes)
  | find (id : Uuid)
  | take (session : SessionId)
  | attempt (i : ℕ) (result : ConnectResult)
  | giveUp (i : ℕ)
  | cleanup
  deriving DecidableEq, Repr

def sessionNotFound : AppError := .network (.connectionFailed "Session not found")

def retriesFailed (c : ReconnectConfig) : AppError :=
  .network (.connectionFailed ("Failed to connect after " ++ toString c.maxRetries ++ " attempts"))

def cacheData (s : State) (id : Uuid) (data : Bytes) : Except AppError Unit × State :=
  match s.sessions.lookup id with
  | some k =>
    (.ok (),
      { s with
        infos := s.infos.modify k (·.addPendingData s.now ⟨s.calls, data⟩)
        calls := s.calls + 1 })
  | none => (.error sessionNotFound, s)

/-- `recover_connection` up to its lookup. -/
def findSession (s : State) (id : Uuid) : Except AppError SessionId × State :=
  match s.sessions.lookup id with
  | some k => (.ok k, { s with found := s.found ++ [k] })
  | none => (.error sessionNotFound, s)

def cleanupTimeout : ℕ := 300 * 1000000000

def cleanupExpiredSessions (s : State) : State :=
  let expired := s.sessions.keys.filter (fun id =>
    (s.sessions.lookup id).any (fun k => (s.infos[k]?).any (fun i => decide (cleanupTimeout < s.now - i.createdAt))))
  { s with sessions := expired.foldl (fun m id => m.erase id) s.sessions }

def attemptConnect (s : State) (i : ℕ) (x : Connecting) : ConnectResult → State
  | .connected =>
    { s with
      connecting := s.connecting.eraseIdx i
      returned := s.returned ++ [(x.session, .ok x.pendingData)]
      errorCount := 0 }
  | .failed _ =>
    { s with connecting := s.connecting.set i { x with attempt := x.attempt + 1 }, errorCount := s.errorCount + 1 }
  | .timedOut =>
    { s with connecting := s.connecting.set i { x with attempt := x.attempt + 1 }, errorCount := s.errorCount + 1 }

def step (c : ReconnectConfig) (s : State) : Event → Option State
  | .advance nanos => some { s with now := s.now + nanos }
  | .create id clientAddr targetAddr =>
    some { s with
      sessions := s.sessions.insert id s.infos.length
      infos := s.infos ++ [.new id clientAddr targetAddr s.now]
      connecting := s.connecting ++ [⟨s.infos.length, [], 1⟩] }
  | .cache id data => some (cacheData s id data).2
  | .find id => some (findSession s id).2
  | .take k =>
    if k ∈ s.found then
      (s.infos[k]?).map (fun info =>
        { s with
          infos := s.infos.set k (info.takePendingData s.now).2
          found := s.found.erase k
          connecting := s.connecting ++ [⟨k, (info.takePendingData s.now).1, 1⟩] })
    else none
  | .attempt i result =>
    (s.connecting[i]?).bind (fun x => if x.attempt ≤ c.maxRetries then some (attemptConnect s i x result) else none)
  | .giveUp i =>
    (s.connecting[i]?).bind (fun x =>
      if c.maxRetries < x.attempt then
        some { s with
          connecting := s.connecting.eraseIdx i
          returned := s.returned ++ [(x.session, .error (retriesFailed c))] }
      else none)
  | .cleanup => some (cleanupExpiredSessions s)

abbrev run (c : ReconnectConfig) (es : List Event) : Option State := Transitions.run (step c) init es

end GscFq.Resilient
