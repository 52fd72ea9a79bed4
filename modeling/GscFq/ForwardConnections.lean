import GscFq.Blackhole
import GscFq.StealthSlots
import GscFq.ZeroCopySession

/-!
The connections of a forward proxy with `handle_stealth` opened up: the connect to the remote, then the copy in both
directions, the blackhole or an error. What goes on around it is that of `GscFq.Stealth`. A panic of the blackhole
ends the task, and in the release profile the process, whose runs are then cut off there.
-/

namespace GscFq.ForwardConnections

open ByteStream Stealth

inductive ErrorKind where
  | connectionReset
  | connectionRefused
  | connectionAborted
  | brokenPipe
  | other
  deriving DecidableEq, Repr

structure ConnectError where
  kind : ErrorKind
  text : String
  deriving DecidableEq, Repr

def contains (s part : String) : Bool := decide (part.toList <:+: s.toList)

def isIoRejection (e : ConnectError) : Bool :=
  match e.kind with
  | .connectionReset | .connectionRefused | .connectionAborted | .brokenPipe => true
  | .other => false

def isConnectionErrorRejection (errorMsg : String) : Bool :=
  contains errorMsg "refused" || contains errorMsg "reset" || contains errorMsg "rejected" ||
    contains errorMsg "timeout" || contains errorMsg "connection"

/-- Where `handle_stealth` stands. The copy has its own state, which may go on after it returned. -/
inductive Inner where
  | connecting
  | forwarding (session : ZeroCopySession.State)
  | refused (e : ConnectError)
  | blackhole
  | absorbed
  | panicked

def Inner.connected (client remote : Bytes) : Except ConnectError Unit → Inner
  | .ok () => .forwarding (ZeroCopySession.init client remote)
  | .error e => if isIoRejection e || isConnectionErrorRejection e.text then .blackhole else .refused e

def connectFailed (e : ConnectError) : AppError := forwardingFailed ("Connection failed: " ++ e.text)

def zeroCopyFailed (e : AppError) : AppError := forwardingFailed ("Zero-copy failed: " ++ e.display)

/-- What `handle_stealth` returns, once it does. -/
def Inner.result : Inner → Option (Except AppError Unit)
  | .forwarding session =>
    match session.phase with
    | .returned (.ok _) => some (.ok ())
    | .returned (.error e) => some (.error (zeroCopyFailed e))
    | _ => none
  | .refused e => some (.error (connectFailed e))
  | .absorbed => some (.ok ())
  | .connecting | .blackhole | .panicked => none

def Inner.toRemote : Inner → Bytes
  | .forwarding session => session.c2s.delivered
  | _ => []

def Inner.toClient : Inner → Bytes
  | .forwarding session => session.s2c.delivered
  | _ => []

structure State where
  proxy : Stealth.State
  inner : List Inner

def init : State := ⟨Stealth.init, []⟩

inductive InnerEvent where
  | connect (result : Except ConnectError Unit)
  | copy (e : ZeroCopySession.Event)
  | absorb (peerAddr : Option SocketAddr) (seed : UInt64) (clock : ℕ → ℕ) (reads : List Blackhole.Read)

/-- The steps of the proxy outside `handle_stealth`, those inside it, and its return. -/
inductive Event where
  | outside (e : Stealth.Event)
  | inside (c : ConnId) (e : InnerEvent)
  | finish (c : ConnId)

def Inner.step (client remote : Bytes) (entered : Bool) : Inner → InnerEvent → Option Inner
  | .connecting, .connect result => if entered then some (.connected client remote result) else none
  | .forwarding session, .copy e => (ZeroCopySession.step session e).map .forwarding
  | .blackhole, .absorb peerAddr seed clock reads =>
    match Blackhole.enterBlackholeMode peerAddr seed clock reads with
    | .ok => some .absorbed
    | .panicked => some .panicked
  | _, _ => none

def isForwarded : Stealth.Event → Bool
  | .tcp _ (.forwarded _) => true
  | _ => false

def entered (s : State) (c : ConnId) : Bool := (s.proxy.conns[c]?).any (·.stage == .forwarding)

variable (h : StealthConnectionHandler) (client remote : ConnId → Bytes)

def step (s : State) : Event → Option State
  | .outside e =>
    if isForwarded e then none
    else (Stealth.step h s.proxy e).map (fun proxy =>
      ⟨proxy, if e = .accept then s.inner ++ [.connecting] else s.inner⟩)
  | .inside c e =>
    (s.inner[c]?).bind (fun x =>
      (x.step (client c) (remote c) (entered s c) e).map (fun x' => { s with inner := s.inner.set c x' }))
  | .finish c =>
    (s.inner[c]?).bind (fun x => x.result.bind (fun result =>
      (Stealth.step h s.proxy (.tcp c (.forwarded result))).map (⟨·, s.inner⟩)))

abbrev run (es : List Event) : Option State := Transitions.run (step h client remote) init es

/-- What a step inside `handle_stealth` can do. -/
inductive Inner.Turn (client remote : Bytes) (entered : Bool) : Inner → Inner → Prop
  | connects (h : entered = true) :
      Turn client remote entered .connecting (.forwarding (ZeroCopySession.init client remote))
  | refuses (h : entered = true) {e : ConnectError} (hio : isIoRejection e = false)
      (htext : isConnectionErrorRejection e.text = false) : Turn client remote entered .connecting (.refused e)
  | rejected (h : entered = true) : Turn client remote entered .connecting .blackhole
  | copies {session session' : ZeroCopySession.State} {e : ZeroCopySession.Event}
      (h : ZeroCopySession.step session e = some session') :
      Turn client remote entered (.forwarding session) (.forwarding session')
  | absorbs : Turn client remote entered .blackhole .absorbed
  | panics : Turn client remote entered .blackhole .panicked

theorem Inner.step_turn {client remote : Bytes} {entered : Bool} {x x' : Inner} {e : InnerEvent}
    (h : x.step client remote entered e = some x') : Inner.Turn client remote entered x x' := by
  cases x with
  | connecting =>
    cases e with
    | connect result =>
      obtain ⟨hentered, he⟩ := Option.ite_none_right_eq_some.mp h
      cases result with
      | ok =>
        cases he
        exact .connects hentered
      | error e =>
        dsimp only [Inner.connected] at he
        split at he
        · cases he
          exact .rejected hentered
        · rename_i hnot
          cases he
          simp only [Bool.or_eq_true, not_or, Bool.not_eq_true] at hnot
          exact .refuses hentered hnot.1 hnot.2
    | copy | absorb => cases h
  | forwarding session =>
    cases e with
    | copy e =>
      obtain ⟨session', hs, rfl⟩ := Option.map_eq_some_iff.mp h
      exact .copies hs
    | connect | absorb => cases h
  | blackhole =>
    cases e with
    | absorb peerAddr seed clock reads =>
      dsimp only [Inner.step] at h
      split at h
      · cases h
        exact .absorbs
      · cases h
        exact .panics
    | connect | copy => cases h
  | refused | absorbed | panicked => cases e <;> cases h

end GscFq.ForwardConnections
