import GscFq.ClientHandshake
import GscFq.HandleClient
import GscFq.Transitions

/-!
`do_handshake` against `handle_client` over one connection. The bytes a side has written wait in
`toServer` or `toClient` until they are delivered, in order and in pieces of any size.
-/

namespace GscFq.HandshakeLink

open ByteStream HandleClient

inductive ClientStage where
  | start
  | awaiting
  | done (result : Except AppError Unit)
  deriving DecidableEq

structure State where
  client : ClientStage
  toServer : Bytes
  server : Task
  toClient : Bytes
  inbox : Stream IoError
  deriving DecidableEq

/-- `cutServer` and `cutClient` end the stream one side reads from. After its handshake a side hands
the connection to the multiplexer, which writes what it likes. -/
inductive Event where
  | hello (now : UInt64) (broken : Option IoError)
  | deliverServer (n : ℕ)
  | server (instant : ℕ) (e : HandleClient.Event)
  | deliverClient (n : ℕ)
  | reply
  | cutServer (e : IoError)
  | cutClient (e : IoError)
  | clientMux (bytes : Bytes)
  | serverMux (bytes : Bytes)

def init (addr : SocketAddr) : State := ⟨.start, [], .start addr, [], ⟨[], none⟩⟩

def isOwn : HandleClient.Event → Bool
  | .recv _ => false
  | .close _ => false
  | _ => true

def clientHello (X : Externals) (client : ReverseProxyClient) (proxies : List ReverseProxyConfig) (now : UInt64)
    (broken : Option IoError) (s : State) : State :=
  match client.sendHello X now proxies, broken with
  | .error e, _ => { s with client := .done (.error e) }
  | .ok _, some e => { s with client := .done (.error (.io e)) }
  | .ok bytes, none => { s with client := .awaiting, toServer := s.toServer ++ bytes }

def step (X : Externals) (srv : ReverseProxyServer) (client : ReverseProxyClient)
    (proxies : List ReverseProxyConfig) (s : State) : Event → Option State
  | .hello now broken =>
    if s.client = .start then some (clientHello X client proxies now broken s) else none
  | .deliverServer n =>
    if 0 < n ∧ n ≤ s.toServer.length then
      (HandleClient.step X srv 0 s.server (.recv (s.toServer.take n))).map
        (fun p => { s with server := p.1, toServer := s.toServer.drop n })
    else none
  | .server instant e =>
    if isOwn e then
      (HandleClient.step X srv instant s.server e).map
        (fun p => { s with server := p.1, toClient := s.toClient ++ p.1.wire.drop s.server.wire.length })
    else none
  | .deliverClient n =>
    if 0 < n ∧ n ≤ s.toClient.length ∧ s.inbox.ending = none then
      some { s with inbox := s.inbox.push (s.toClient.take n), toClient := s.toClient.drop n }
    else none
  | .reply =>
    if s.client = .awaiting then
      (ReverseProxyClient.readReply X s.inbox).map (fun r => { s with client := .done r })
    else none
  | .cutServer e => (HandleClient.step X srv 0 s.server (.close e)).map (fun p => { s with server := p.1 })
  | .cutClient e =>
    if s.inbox.ending = none then some { s with inbox := { s.inbox with ending := some e } } else none
  | .clientMux bytes =>
    if s.client = .done (.ok ()) then some { s with toServer := s.toServer ++ bytes } else none
  | .serverMux bytes =>
    if s.server.stage = .serving then some { s with toClient := s.toClient ++ bytes } else none

end GscFq.HandshakeLink
