import GscFq.Errors
import GscFq.Totp

namespace GscFq

open ByteStream Text

def protocolVersion : UInt8 := 1

def maxMessageSize : ℕ := 16 * 1024 * 1024

structure ReverseProxyConfig where
  serverPort : UInt16
  serverHost : Option String
  localHost : String
  localPort : UInt16
  deriving DecidableEq, Repr

inductive HandshakeStatus where
  | ok
  | versionMismatch
  | configError
  | portAllocationFailed
  | invalidToken
  | tokenExpired
  | accessDenied
  | invalidConfigHash
  deriving DecidableEq, Repr

structure ClientHello where
  version : UInt8
  token : String
  totpCode : Option UInt32
  proxies : List ReverseProxyConfig
  configHash : String
  deriving DecidableEq, Repr

structure ServerHello where
  version : UInt8
  status : HandshakeStatus
  message : String
  allowedPorts : List UInt16
  sessionId : Option String
  deriving DecidableEq, Repr

inductive ControlMessage where
  | clientHello (hello : ClientHello)
  | serverHello (hello : ServerHello)
  | ping
  | pong
  deriving DecidableEq, Repr

/-- The libraries behind the protocol: `bincode`, `serde_json`, SHA-256, and those of `Totp`. -/
structure Externals extends TotpPrimitives where
  bincodeSerialize : ControlMessage → Except String Bytes
  bincodeDeserialize : Bytes → Except String ControlMessage
  jsonToString : List ReverseProxyConfig → Except String String
  sha256 : Bytes → Bytes

namespace ControlMessage

def toBytes (X : Externals) (m : ControlMessage) : Except AppError Bytes :=
  match X.bincodeSerialize m with
  | .ok data => .ok data
  | .error e => .error (.reverseProxy (.serializationFailed e))

def fromBytes (X : Externals) (bytes : Bytes) : Except AppError ControlMessage :=
  match X.bincodeDeserialize bytes with
  | .ok m => .ok m
  | .error e => .error (.reverseProxy (.deserializationFailed e))

def tooLarge (len : ℕ) : AppError :=
  .reverseProxy (.invalidMessage ("Message too large: " ++ toString len ++ " bytes"))

/-- The bytes `write_to` hands to its writer; the length is cast to `u32` before it is compared. -/
def writeTo (X : Externals) (m : ControlMessage) : Except AppError Bytes :=
  match m.toBytes X with
  | .error e => .error e
  | .ok data =>
    let len := data.length % 2 ^ 32
    if maxMessageSize < len then .error (tooLarge len) else .ok (toBe 4 len ++ data)

def readFrom (X : Externals) (s : Stream IoError) : Read (Stream IoError) AppError ControlMessage :=
  match readExact 4 s with
  | .pending => .pending
  | .err e => .err (.io e)
  | .ok lenBytes s =>
    let len := ofBe lenBytes
    if maxMessageSize < len then .err (tooLarge len)
    else
      match readExact len s with
      | .pending => .pending
      | .err e => .err (.io e)
      | .ok data s =>
        match fromBytes X data with
        | .ok m => .ok m s
        | .error e => .err e

/-- The length of a `bincode` encoding with fixed-width integers: four bytes for a variant, eight for
a length, one for the presence of an option. -/
def textSize (s : String) : ℕ := 8 + (utf8 s).length

def optionSize {α : Type} (size : α → ℕ) : Option α → ℕ
  | none => 1
  | some a => 1 + size a

def listSize {α : Type} (size : α → ℕ) (l : List α) : ℕ := 8 + (l.map size).sum

def proxySize (c : ReverseProxyConfig) : ℕ :=
  2 + optionSize textSize c.serverHost + textSize c.localHost + 2

def encodedSize : ControlMessage → ℕ
  | .clientHello h => 4 + 1 + textSize h.token + optionSize (fun _ => 4) h.totpCode +
      listSize proxySize h.proxies + textSize h.configHash
  | .serverHello h => 4 + 1 + 4 + textSize h.message + listSize (fun _ => 2) h.allowedPorts +
      optionSize textSize h.sessionId
  | .ping => 4
  | .pong => 4

end ControlMessage

/-- What the protocol relies on: a message that fits in memory is encoded in `encodedSize` bytes
from which it is decoded again, decoding takes as many bytes, and a list of proxies has a JSON text. -/
structure Externals.Lawful (X : Externals) : Prop where
  serialize_ok : ∀ m : ControlMessage, m.encodedSize < 2 ^ 64 → ∃ data, X.bincodeSerialize m = .ok data
  serialize_length : ∀ m data, X.bincodeSerialize m = .ok data → data.length = m.encodedSize
  deserialize_serialize : ∀ m data, X.bincodeSerialize m = .ok data → X.bincodeDeserialize data = .ok m
  deserialize_size : ∀ m data, X.bincodeDeserialize data = .ok m → m.encodedSize ≤ data.length
  json_ok : ∀ proxies, ∃ text, X.jsonToString proxies = .ok text

end GscFq
