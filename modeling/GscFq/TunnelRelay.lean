import GscFq.DuplexCopy
import GscFq.Transitions
import GscFq.TunnelStream

/-!
A TCP connection of a user through the tunnel: the server's task of `handle_client`, the tunnel stream and the
client's `handle_tunnel_stream`, with `copy_bidirectional` on both sides. What the user sends is copied by the
server and then by the client, what the local service sends by the client and then by the server.
-/

namespace GscFq.TunnelRelay

open ByteStream Pipelines DuplexCopy Transitions

/-- One way through the tunnel. A copy that is gone has failed and taken its buffer and its source with it;
`header` counts the bytes at the front of the tunnel that are not the sender's. -/
structure Way where
  source : Stage UInt8
  first : Copying
  tunnel : Stage UInt8
  second : Copying
  sink : Stage UInt8
  got : Stage UInt8
  firstGone : Bool
  secondGone : Bool
  header : ℕ
  sent : Bytes
  deriving DecidableEq, Repr

namespace Way

def start : Way := ⟨.empty, .start, .empty, .start, .empty, .empty, false, false, 0, []⟩

def send (w : Way) (xs : Bytes) : Option Way :=
  if w.source.ended = false then some { w with source := w.source.put xs, sent := w.sent ++ xs } else none

def close (w : Way) : Option Way :=
  if w.source.ended = false then some { w with source := w.source.close } else none

def read (w : Way) (k : ℕ) : Option Way :=
  if 0 < k ∧ k ≤ w.sink.held.length then
    some { w with sink := w.sink.drop k, got := w.got.put (w.sink.held.take k) }
  else none

def readEnd (w : Way) : Option Way :=
  if w.sink.held = [] ∧ w.sink.ended = true ∧ w.got.ended = false then some { w with got := w.got.close } else none

def copyFirst (w : Way) (e : DuplexCopy.Event) : Option Way :=
  (DuplexCopy.step w.source w.first w.tunnel e).map
    (fun r => { w with source := r.1, first := r.2.1, tunnel := r.2.2 })

def copySecond (w : Way) (e : DuplexCopy.Event) : Option Way :=
  (DuplexCopy.step w.tunnel w.second w.sink e).map
    (fun r => { w with tunnel := r.1, second := r.2.1, sink := r.2.2 })

def writeHeader (w : Way) (xs : Bytes) : Way := { w with tunnel := w.tunnel.put xs, header := w.header + xs.length }

def readHeader (w : Way) : Way := { w with tunnel := w.tunnel.drop 4, header := w.header - 4 }

/-- A pipe whose writer is dropped ends after what it holds, or is reset and loses it. -/
def orphan (fin : Bool) (s : Stage UInt8) : Stage UInt8 := if fin then s.close else s.clear

def loseFirst (w : Way) (fin : Bool) : Way := { w with firstGone := true, tunnel := orphan fin w.tunnel }

def loseSecond (w : Way) (fin : Bool) : Way := { w with secondGone := true, sink := orphan fin w.sink }

end Way

inductive Server where
  | header (rest : Bytes)
  | copying
  | returned (fromClient toClient : ℕ)
  | failed
  deriving DecidableEq, Repr

inductive Client where
  | opening
  | opened (order : Option Tunnel.Order)
  | copying (target : ReverseProxyConfig)
  | returned (target : ReverseProxyConfig) (fromServer toServer : ℕ)
  | failed
  deriving DecidableEq

structure State where
  proxyConfigs : List ReverseProxyConfig
  server : Server
  client : Client
  toLocal : Way
  toUser : Way
  deriving DecidableEq

inductive Event where
  | userSends (xs : Bytes)
  | userCloses
  | userReads (k : ℕ)
  | userReadsEnd
  | localSends (xs : Bytes)
  | localCloses
  | localReads (k : ℕ)
  | localReadsEnd
  | writeHeader (k : ℕ)
  | serverToLocal (e : DuplexCopy.Event)
  | serverToUser (e : DuplexCopy.Event)
  | serverReturns
  | serverFails (tunnelFin userFin : Bool)
  | readHeader
  | connect
  | clientToLocal (e : DuplexCopy.Event)
  | clientToUser (e : DuplexCopy.Event)
  | clientReturns
  | clientFails (tunnelFin localFin : Bool)
  deriving DecidableEq, Repr

def init (proxyConfigs : List ReverseProxyConfig) (port : UInt16) : State :=
  ⟨proxyConfigs, .header (Tunnel.tcpHeader port), .opening, .start, .start⟩

/-- The local service has been connected to. -/
def Client.connected : Client → Bool
  | .copying _ | .returned _ _ _ => true
  | _ => false

def State.withLocal (s : State) (w : Option Way) : Option State := w.map (fun w => { s with toLocal := w })

def State.withUser (s : State) (w : Option Way) : Option State := w.map (fun w => { s with toUser := w })

/-- Part of the header goes out; the last part lets the copy begin. -/
def State.writeHeader (s : State) (k : ℕ) : Option State :=
  match s.server with
  | .header rest =>
    if 0 < k ∧ k ≤ rest.length then
      some { s with
        server := if rest.drop k = [] then .copying else .header (rest.drop k)
        toLocal := s.toLocal.writeHeader (rest.take k) }
    else none
  | _ => none

def State.readHeader (s : State) : Option State :=
  if s.client = .opening ∧ 4 ≤ s.toLocal.tunnel.held.length then
    some { s with
      client := .opened (Tunnel.parseOrder s.proxyConfigs (s.toLocal.tunnel.held.take 4))
      toLocal := s.toLocal.readHeader }
  else none

def State.connect (s : State) : Option State :=
  match s.client with
  | .opened (some (.tcp target _)) => some { s with client := .copying target }
  | _ => none

def State.serverReturns (s : State) : Option State :=
  if s.server = .copying ∧ s.toLocal.tunnel.ended = true ∧ s.toUser.sink.ended = true then
    some { s with server := .returned s.toLocal.first.amount s.toUser.second.amount }
  else none

def State.clientReturns (s : State) : Option State :=
  match s.client with
  | .copying target =>
    if s.toLocal.sink.ended = true ∧ s.toUser.tunnel.ended = true then
      some { s with client := .returned target s.toLocal.second.amount s.toUser.first.amount }
    else none
  | _ => none

def State.serverFails (s : State) (tunnelFin userFin : Bool) : Option State :=
  match s.server with
  | .header _ | .copying =>
    some { s with
      server := .failed, toLocal := s.toLocal.loseFirst tunnelFin, toUser := s.toUser.loseSecond userFin }
  | _ => none

/-- Without a local connection there is none to end. -/
def State.clientFails (s : State) (tunnelFin localFin : Bool) : Option State :=
  match s.client with
  | .opening | .opened _ =>
    some { s with
      client := .failed, toLocal := { s.toLocal with secondGone := true }, toUser := s.toUser.loseFirst tunnelFin }
  | .copying _ =>
    some { s with
      client := .failed, toLocal := s.toLocal.loseSecond localFin, toUser := s.toUser.loseFirst tunnelFin }
  | _ => none

def step (s : State) : Event → Option State
  | .userSends xs => s.withLocal (s.toLocal.send xs)
  | .userCloses => s.withLocal s.toLocal.close
  | .userReads k => s.withUser (s.toUser.read k)
  | .userReadsEnd => s.withUser s.toUser.readEnd
  | .localSends xs => if s.client.connected then s.withUser (s.toUser.send xs) else none
  | .localCloses => if s.client.connected then s.withUser s.toUser.close else none
  | .localReads k => s.withLocal (s.toLocal.read k)
  | .localReadsEnd => s.withLocal s.toLocal.readEnd
  | .writeHeader k => s.writeHeader k
  | .serverToLocal e => if s.server = .copying then s.withLocal (s.toLocal.copyFirst e) else none
  | .serverToUser e => if s.server = .copying then s.withUser (s.toUser.copySecond e) else none
  | .serverReturns => s.serverReturns
  | .serverFails tunnelFin userFin => s.serverFails tunnelFin userFin
  | .readHeader => s.readHeader
  | .connect => s.connect
  | .clientToLocal e =>
    match s.client with
    | .copying _ => s.withLocal (s.toLocal.copySecond e)
    | _ => none
  | .clientToUser e =>
    match s.client with
    | .copying _ => s.withUser (s.toUser.copyFirst e)
    | _ => none
  | .clientReturns => s.clientReturns
  | .clientFails tunnelFin localFin => s.clientFails tunnelFin localFin

/-- What the two ends of the connection do, what the tasks do, and what goes wrong under them. -/
inductive Kind where
  | sender
  | internal
  | failure
  deriving DecidableEq, Repr

def Event.kind : Event → Kind
  | .userSends _ | .userCloses | .localSends _ | .localCloses => .sender
  | .serverFails _ _ | .clientFails _ _ => .failure
  | _ => .internal

/-- What happens on one way, where `first` and `second` say that the two tasks are copying. -/
inductive Way.Turn (first second : Prop) (w : Way) : Kind → Way → Prop
  | send {xs : Bytes} {w' : Way} (h : w.send xs = some w') : Turn first second w .sender w'
  | close {w' : Way} (h : w.close = some w') : Turn first second w .sender w'
  | read {k : ℕ} {w' : Way} (h : w.read k = some w') : Turn first second w .internal w'
  | readEnd {w' : Way} (h : w.readEnd = some w') : Turn first second w .internal w'
  | copyFirst {e : DuplexCopy.Event} {w' : Way} (hf : first) (h : w.copyFirst e = some w') :
      Turn first second w .internal w'
  | copySecond {e : DuplexCopy.Event} {w' : Way} (hs : second) (h : w.copySecond e = some w') :
      Turn first second w .internal w'

inductive Move (s : State) : Kind → State → Prop
  | toLocal {kind : Kind} {w : Way}
      (h : s.toLocal.Turn (s.server = .copying) (∃ target, s.client = .copying target) kind w) :
      Move s kind { s with toLocal := w }
  | toUser {kind : Kind} {w : Way}
      (h : s.toUser.Turn (∃ target, s.client = .copying target) (s.server = .copying) kind w) :
      Move s kind { s with toUser := w }
  | writeHeader {k : ℕ} {t : State} (h : s.writeHeader k = some t) : Move s .internal t
  | readHeader {t : State} (h : s.readHeader = some t) : Move s .internal t
  | connect {t : State} (h : s.connect = some t) : Move s .internal t
  | serverReturns {t : State} (h : s.serverReturns = some t) : Move s .internal t
  | clientReturns {t : State} (h : s.clientReturns = some t) : Move s .internal t
  | serverFails {tunnelFin userFin : Bool} {t : State} (h : s.serverFails tunnelFin userFin = some t) : Move s .failure t
  | clientFails {tunnelFin localFin : Bool} {t : State} (h : s.clientFails tunnelFin localFin = some t) :
      Move s .failure t

theorem move_local {s t : State} {kind : Kind} {w : Option Way} (ht : s.withLocal w = some t)
    (hw : ∀ w', w = some w' → s.toLocal.Turn (s.server = .copying) (∃ target, s.client = .copying target) kind w') :
    Move s kind t := by
  obtain ⟨w', hsome, rfl⟩ := Option.map_eq_some_iff.mp ht
  exact .toLocal (hw w' hsome)

theorem move_user {s t : State} {kind : Kind} {w : Option Way} (ht : s.withUser w = some t)
    (hw : ∀ w', w = some w' → s.toUser.Turn (∃ target, s.client = .copying target) (s.server = .copying) kind w') :
    Move s kind t := by
  obtain ⟨w', hsome, rfl⟩ := Option.map_eq_some_iff.mp ht
  exact .toUser (hw w' hsome)

theorem step_move {s t : State} {e : Event} (ht : step s e = some t) : Move s e.kind t := by
  cases e with
  | userSends xs => exact move_local ht (fun _ hw => .send hw)
  | userCloses => exact move_local ht (fun _ hw => .close hw)
  | userReads k => exact move_user ht (fun _ hw => .read hw)
  | userReadsEnd => exact move_user ht (fun _ hw => .readEnd hw)
  | localSends xs => exact move_user (Option.ite_none_right_eq_some.mp ht).2 (fun _ hw => .send hw)
  | localCloses => exact move_user (Option.ite_none_right_eq_some.mp ht).2 (fun _ hw => .close hw)
  | localReads k => exact move_local ht (fun _ hw => .read hw)
  | localReadsEnd => exact move_local ht (fun _ hw => .readEnd hw)
  | writeHeader k => exact .writeHeader ht
  | serverToLocal e =>
    obtain ⟨hs, he⟩ := Option.ite_none_right_eq_some.mp ht
    exact move_local he (fun _ hw => .copyFirst hs hw)
  | serverToUser e =>
    obtain ⟨hs, he⟩ := Option.ite_none_right_eq_some.mp ht
    exact move_user he (fun _ hw => .copySecond hs hw)
  | serverReturns => exact .serverReturns ht
  | serverFails tunnelFin userFin => exact .serverFails ht
  | readHeader => exact .readHeader ht
  | connect => exact .connect ht
  | clientToLocal e =>
    simp only [step] at ht
    split at ht
    · rename_i target hc
      exact move_local ht (fun _ hw => .copySecond ⟨target, hc⟩ hw)
    · cases ht
  | clientToUser e =>
    simp only [step] at ht
    split at ht
    · rename_i target hc
      exact move_user ht (fun _ hw => .copyFirst ⟨target, hc⟩ hw)
    · cases ht
  | clientReturns => exact .clientReturns ht
  | clientFails tunnelFin localFin => exact .clientFails ht

def sampleConfig : ReverseProxyConfig := ⟨8080, none, "127.0.0.1", 3000⟩

def sampleOpening : List Event :=
  [.userSends [1, 2], .userCloses, .writeHeader 3, .writeHeader 1, .readHeader, .connect, .localSends [7], .localCloses]

def sampleRelay : List Event :=
  [.serverToLocal (.read 2), .serverToLocal (.write 1), .clientToLocal (.read 1), .serverToLocal (.write 1),
    .clientToUser (.read 1), .clientToUser (.write 1), .clientToLocal (.write 1), .serverToUser (.read 1),
    .serverToUser (.write 1), .userReads 1, .serverToLocal .readEnd, .serverToLocal .shutdown, .clientToLocal (.read 1),
    .clientToLocal (.write 1), .clientToLocal .readEnd, .clientToLocal .shutdown, .localReads 2, .localReadsEnd,
    .clientToUser .readEnd, .clientToUser .shutdown, .clientReturns, .serverToUser .readEnd, .serverToUser .shutdown,
    .userReadsEnd, .serverReturns]

def sampleStart : State := init [sampleConfig] 8080

def sampleOpened : State := (run step sampleStart sampleOpening).getD sampleStart

def sampleEnd : State := (run step sampleOpened sampleRelay).getD sampleStart

end GscFq.TunnelRelay
