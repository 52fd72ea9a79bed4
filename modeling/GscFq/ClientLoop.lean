import GscFq.Broadcast
import GscFq.ClientHandshake
import GscFq.Transitions

namespace GscFq.ClientLoop

open Broadcast ReverseProxyClient

/-- How a connection that returned an error had ended: before its handshake was complete, or after. -/
inductive Outcome where
  | failed
  | lost
  deriving DecidableEq, Repr

/-- Where `start` stands, with the receiver that `run_connection_with_shutdown` or the backoff
holds. `ready` has resubscribed and is about to connect; `ended` has the error of the connection. -/
inductive Stage where
  | checking
  | resubscribing
  | ready (rx : Receiver)
  | connecting (rx : Receiver)
  | handshaking (rx : Receiver)
  | tunnel (rx : Receiver)
  | ended (outcome : Outcome) (e : AppError)
  | backoff (rx : Receiver)
  | returned (result : Except AppError Unit)
  deriving DecidableEq

/-- `begun` and `outcomes` are history: the connection attempts begun and the ends of those that
returned an error. -/
structure State where
  channel : Channel
  shutdownRx : Receiver
  retryCount : ℕ
  backoffSeconds : ℕ
  stage : Stage
  begun : ℕ
  outcomes : List Outcome
  deriving DecidableEq

inductive Event where
  | shutdown
  | check
  | resubscribe
  | connect
  | connected (result : Except AppError Unit)
  | handshake (result : Except AppError Unit)
  | inbound
  | stop
  | lose (reason : Option String)
  | retry
  | slept
  | stopBackoff
  deriving DecidableEq

def maxBackoff : ℕ := 60

def maxRetries : ℕ := 10

def connectionFailed (reason : String) : AppError := .reverseProxy (.connectionFailed reason)

def gaveUp : AppError := connectionFailed ("Failed after " ++ toString maxRetries ++ " retry attempts")

def noConfigurations : AppError := handshakeFailed "No valid reverse proxy configurations"

def shutdownTx (earlier : ℕ) : Channel := ⟨1, earlier⟩

def start (earlier : ℕ) : State := ⟨shutdownTx earlier, (shutdownTx earlier).subscribe, 0, 1, .checking, 0, []⟩

def State.goto (s : State) (stage : Stage) : State := { s with stage := stage }

/-- The head of `run_connection_with_shutdown`: the configurations are parsed before anything is
connected. -/
def State.connect (client : ReverseProxyClient) (s : State) (rx : Receiver) : State :=
  match parseProxyConfigs client.config with
  | .error e => s.goto (.ended .failed e)
  | .ok [] => s.goto (.ended .failed noConfigurations)
  | .ok (_ :: _) => { s.goto (.connecting rx) with begun := s.begun + 1 }

def State.retry (s : State) (outcome : Outcome) : State :=
  let s := { s with retryCount := s.retryCount + 1, outcomes := s.outcomes ++ [outcome] }
  if s.retryCount < maxRetries then s.goto (.backoff s.channel.subscribe) else s.goto .checking

def lossError : Option String → AppError
  | some e => connectionFailed e
  | none => connectionFailed "Connection closed by server"

def step (client : ReverseProxyClient) (s : State) : Event → Option State
  | .shutdown => some { s with channel := s.channel.send }
  | .check =>
    match s.stage with
    | .checking =>
      match s.channel.tryRecv s.shutdownRx with
      | (.ok, rx) => some { s with shutdownRx := rx, stage := .returned (.ok ()) }
      | (_, rx) => some { s with shutdownRx := rx, stage := .resubscribing }
    | _ => none
  | .resubscribe =>
    match s.stage with
    | .resubscribing =>
      if maxRetries ≤ s.retryCount then some (s.goto (.returned (.error gaveUp)))
      else some (s.goto (.ready s.channel.subscribe))
    | _ => none
  | .connect =>
    match s.stage with
    | .ready rx => some (s.connect client rx)
    | _ => none
  | .connected result =>
    match s.stage, result with
    | .connecting rx, .ok () => some (s.goto (.handshaking rx))
    | .connecting _, .error e => some (s.goto (.ended .failed e))
    | _, _ => none
  | .handshake result =>
    match s.stage, result with
    | .handshaking rx, .ok () => some (s.goto (.tunnel rx))
    | .handshaking _, .error e => some (s.goto (.ended .failed e))
    | _, _ => none
  | .inbound =>
    match s.stage with
    | .tunnel _ => some s
    | _ => none
  | .stop =>
    match s.stage with
    | .tunnel rx => if s.channel.pending rx then some (s.goto (.returned (.ok ()))) else none
    | _ => none
  | .lose reason =>
    match s.stage with
    | .tunnel _ => some (s.goto (.ended .lost (lossError reason)))
    | _ => none
  | .retry =>
    match s.stage with
    | .ended outcome _ => some (s.retry outcome)
    | _ => none
  | .slept =>
    match s.stage with
    | .backoff _ => some { s with backoffSeconds := min (s.backoffSeconds * 2) maxBackoff, stage := .checking }
    | _ => none
  | .stopBackoff =>
    match s.stage with
    | .backoff rx => if s.channel.pending rx then some (s.goto (.returned (.ok ()))) else none
    | _ => none

abbrev run (client : ReverseProxyClient) (earlier : ℕ) (es : List Event) : Option State :=
  Transitions.run (step client) (start earlier) es

inductive Move (client : ReverseProxyClient) (s : State) : State → Prop where
  | observed {rx : Receiver} (before : s.stage = .checking) (signal : s.channel.tryRecv s.shutdownRx = (.ok, rx)) :
      Move client s { s with shutdownRx := rx, stage := .returned (.ok ()) }
  | unobserved {r : TryRecv} {rx : Receiver} (before : s.stage = .checking)
      (signal : s.channel.tryRecv s.shutdownRx = (r, rx)) (none : r ≠ .ok) :
      Move client s { s with shutdownRx := rx, stage := .resubscribing }
  | exhausted (before : s.stage = .resubscribing) (budget : maxRetries ≤ s.retryCount) :
      Move client s (s.goto (.returned (.error gaveUp)))
  | resubscribe (before : s.stage = .resubscribing) (budget : s.retryCount < maxRetries) :
      Move client s (s.goto (.ready s.channel.subscribe))
  | connect {rx : Receiver} (before : s.stage = .ready rx) : Move client s (s.connect client rx)
  | connected {rx : Receiver} (before : s.stage = .connecting rx) : Move client s (s.goto (.handshaking rx))
  | accepted {rx : Receiver} (before : s.stage = .handshaking rx) : Move client s (s.goto (.tunnel rx))
  | inbound {rx : Receiver} (before : s.stage = .tunnel rx) : Move client s s
  | fail {rx : Receiver} {e : AppError} (before : s.stage = .connecting rx ∨ s.stage = .handshaking rx) :
      Move client s (s.goto (.ended .failed e))
  | lose {rx : Receiver} {e : AppError} (before : s.stage = .tunnel rx) : Move client s (s.goto (.ended .lost e))
  | stop {rx : Receiver} (before : s.stage = .tunnel rx ∨ s.stage = .backoff rx) (signal : s.channel.pending rx) :
      Move client s (s.goto (.returned (.ok ())))
  | retry {outcome : Outcome} {e : AppError} (before : s.stage = .ended outcome e) : Move client s (s.retry outcome)
  | slept {rx : Receiver} (before : s.stage = .backoff rx) :
      Move client s { s with backoffSeconds := min (s.backoffSeconds * 2) maxBackoff, stage := .checking }

theorem step_move {client : ReverseProxyClient} {s s' : State} {e : Event} (h : step client s e = some s')
    (he : e ≠ .shutdown) : Move client s s' := by
  cases e with
  | shutdown => exact absurd rfl he
  | check =>
    simp only [step] at h
    split at h
    · rename_i hs
      split at h
      · rename_i rx hr
        cases h
        exact .observed hs hr
      · rename_i r rx hno hr
        cases h
        exact .unobserved hs hr hno
    · cases h
  | resubscribe =>
    simp only [step] at h
    split at h
    · rename_i hs
      split at h
      · rename_i hb
        cases h
        exact .exhausted hs hb
      · rename_i hb
        cases h
        exact .resubscribe hs (Nat.not_le.mp hb)
    · cases h
  | connect =>
    simp only [step] at h
    split at h
    · rename_i hs
      cases h
      exact .connect hs
    · cases h
  | connected result =>
    simp only [step] at h
    split at h
    · rename_i hs
      cases h
      exact .connected hs
    · rename_i hs
      cases h
      exact .fail (Or.inl hs)
    · cases h
  | handshake result =>
    simp only [step] at h
    split at h
    · rename_i hs
      cases h
      exact .accepted hs
    · rename_i hs
      cases h
      exact .fail (Or.inr hs)
    · cases h
  | inbound =>
    simp only [step] at h
    split at h
    · rename_i hs
      cases h
      exact .inbound hs
    · cases h
  | stop =>
    simp only [step] at h
    split at h
    · rename_i hs
      split at h
      · rename_i hp
        cases h
        exact .stop (Or.inl hs) hp
      · cases h
    · cases h
  | lose reason =>
    simp only [step] at h
    split at h
    · rename_i hs
      cases h
      exact .lose hs
    · cases h
  | retry =>
    simp only [step] at h
    split at h
    · rename_i hs
      cases h
      exact .retry hs
    · cases h
  | slept =>
    simp only [step] at h
    split at h
    · rename_i hs
      cases h
      exact .slept hs
    · cases h
  | stopBackoff =>
    simp only [step] at h
    split at h
    · rename_i hs
      split at h
      · rename_i hp
        cases h
        exact .stop (Or.inr hs) hp
      · cases h
    · cases h

end GscFq.ClientLoop
