import GscFq.Protocol

namespace GscFq

open ByteStream Text

namespace Tunnel

def tcpHeader (port : UInt16) : Bytes := [0x01, 0x00, (port >>> 8).toUInt8, port.toUInt8]

def udpHeader (port : UInt16) : Bytes := [0x02, 0x00, (port >>> 8).toUInt8, port.toUInt8]

def udpRequest (port : UInt16) (data : Bytes) : Bytes :=
  udpHeader port ++ be16 (UInt16.ofNat data.length) ++ data

def responseRound (s : Stream IoError) : Option (Bytes × Stream IoError) :=
  match readExact 2 s with
  | .ok lenBytes s =>
    match readExact (ofBe lenBytes) s with
    | .ok response s => some (response, s)
    | _ => none
  | _ => none

def udpResponses : ℕ → Stream IoError → List Bytes
  | 0, _ => []
  | fuel + 1, s =>
    match responseRound s with
    | some (response, s) => response :: udpResponses fuel s
    | none => []

/-- The datagrams the loop sends to the UDP peer; each round takes two bytes or more. -/
def sentToPeer (s : Stream IoError) : List Bytes := udpResponses s.bytes.length s

def lookup (configs : List ReverseProxyConfig) (port : UInt16) : Option ReverseProxyConfig :=
  configs.find? (fun c => c.serverPort == port)

def localAddr (target : ReverseProxyConfig) : String := target.localHost ++ ":" ++ toString target.localPort.toNat

def connectionFailed (text : String) : AppError := .reverseProxy (.connectionFailed text)

def noTarget (port : UInt16) : AppError := connectionFailed ("No local target for port " ++ toString port.toNat)

inductive UdpRecv where
  | datagram (data : Bytes)
  | failed
  | timeout
  deriving DecidableEq, Repr

/-- How the local network and the tunnel answer one tunnel task: the errors of its calls, the
datagram that comes back, the bytes the local service sends, and whether the relay is over. -/
structure LocalNet where
  bindUdp : Option IoError
  sendUdp : Option IoError
  recvUdp : UdpRecv
  writeBack : Option IoError
  connectTcp : Option IoError
  localBytes : Bytes
  relayOver : Bool
  deriving DecidableEq, Repr

inductive LocalTraffic where
  | connect (addr : String)
  | sendTo (addr : String) (payload : Bytes)
  deriving DecidableEq, Repr

/-- What a tunnel task has done: its local traffic, the bytes relayed to the local service, the
bytes written back, and its result once it has one. -/
structure Outcome where
  traffic : List LocalTraffic
  relayed : Bytes
  written : Bytes
  result : Option (Except AppError Unit)
  deriving DecidableEq

def Outcome.waiting : Outcome := ⟨[], [], [], none⟩

def Outcome.fail (e : AppError) : Outcome := ⟨[], [], [], some (.error e)⟩

/-- The response is written back as it is: `stream.write_all(&buf[..n])`. -/
def udpAnswer (net : LocalNet) : Bytes :=
  match net.recvUdp, net.writeBack with
  | .datagram data, none => data.take 65535
  | _, _ => []

def forwardUdp (net : LocalNet) (target : ReverseProxyConfig) (payload : Bytes) : Outcome :=
  match net.bindUdp with
  | some e => .fail (connectionFailed ("Failed to bind UDP socket: " ++ e.text))
  | none =>
    match net.sendUdp with
    | some e => ⟨[.sendTo (localAddr target) payload], [], [],
        some (.error (connectionFailed ("Failed to send UDP data: " ++ e.text)))⟩
    | none => ⟨[.sendTo (localAddr target) payload], [], udpAnswer net, some (.ok ())⟩

def forwardTcp (net : LocalNet) (target : ReverseProxyConfig) (s : Stream IoError) : Outcome :=
  match net.connectTcp with
  | some e => ⟨[.connect (localAddr target)], [], [], some (.error (connectionFailed
      ("Failed to connect to local service " ++ localAddr target ++ ": " ++ e.text)))⟩
  | none => ⟨[.connect (localAddr target)], s.bytes, net.localBytes,
      if net.relayOver then some (.ok ()) else none⟩

def udpTunnel (configs : List ReverseProxyConfig) (net : LocalNet) (port : UInt16) (s : Stream IoError) : Outcome :=
  match lookup configs port with
  | none => .fail (noTarget port)
  | some target =>
    match readExact 2 s with
    | .pending => .waiting
    | .err e => .fail (connectionFailed ("Failed to read UDP payload length: " ++ e.text))
    | .ok lenBytes s =>
      match readExact (ofBe lenBytes) s with
      | .pending => .waiting
      | .err e => .fail (connectionFailed ("Failed to read UDP payload: " ++ e.text))
      | .ok payload _ => forwardUdp net target payload

def tcpTunnel (configs : List ReverseProxyConfig) (net : LocalNet) (port : UInt16) (s : Stream IoError) : Outcome :=
  match lookup configs port with
  | none => .fail (noTarget port)
  | some target => forwardTcp net target s

def handleTunnelStream (configs : List ReverseProxyConfig) (net : LocalNet) (s : Stream IoError) : Outcome :=
  match readExact 4 s with
  | .pending => .waiting
  | .err e => .fail (connectionFailed ("Failed to read header: " ++ e.text))
  | .ok header s =>
    let msgType := header.getD 0 0
    let targetPort := ofBe16 (header.getD 2 0) (header.getD 3 0)
    if msgType = 0x01 then tcpTunnel configs net targetPort s
    else if msgType = 0x02 then udpTunnel configs net targetPort s
    else if msgType = 0x03 then .fail (connectionFailed "PROXY protocol not implemented")
    else .fail (connectionFailed ("Unknown protocol type 0x" ++ lowerHex [msgType]))

inductive Order where
  | tcp (target : ReverseProxyConfig) (data : Bytes)
  | udp (target : ReverseProxyConfig) (payload : Bytes)
  deriving DecidableEq, Repr

def udpPayload : Bytes → Option Bytes
  | hi :: lo :: rest => if (ofBe16 hi lo).toNat ≤ rest.length then some (rest.take (ofBe16 hi lo).toNat) else none
  | _ => none

def parseOrder (configs : List ReverseProxyConfig) : Bytes → Option Order
  | msgType :: _ :: hi :: lo :: rest =>
    (lookup configs (ofBe16 hi lo)).bind (fun target =>
      if msgType = 0x01 then some (.tcp target rest)
      else if msgType = 0x02 then (udpPayload rest).map (.udp target)
      else none)
  | _ => none

end Tunnel

end GscFq
