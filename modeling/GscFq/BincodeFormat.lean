import GscFq.CodecSequences
import GscFq.Protocol

/-!
The fixed-width `bincode` layout of a control message, where bytes after a message are ignored. The
texts of decoding errors are not those of the library.
-/

namespace GscFq.Bincode

open ByteStream Text ControlMessage

def statusIndex : HandshakeStatus → ℕ
  | .ok => 0
  | .versionMismatch => 1
  | .configError => 2
  | .portAllocationFailed => 3
  | .invalidToken => 4
  | .tokenExpired => 5
  | .accessDenied => 6
  | .invalidConfigHash => 7

def statusOf : ℕ → Option HandshakeStatus
  | 0 => some .ok
  | 1 => some .versionMismatch
  | 2 => some .configError
  | 3 => some .portAllocationFailed
  | 4 => some .invalidToken
  | 5 => some .tokenExpired
  | 6 => some .accessDenied
  | 7 => some .invalidConfigHash
  | _ => none

def status : Codec HandshakeStatus :=
  .uint 4 statusIndex statusOf (by intro a; cases a <;> decide) (by intro a; cases a <;> rfl)

def proxy : Codec ReverseProxyConfig :=
  (Codec.u16.pair (Codec.text.option.pair (Codec.text.pair Codec.u16))).map
    (fun c => (c.serverPort, c.serverHost, c.localHost, c.localPort))
    (fun p => ⟨p.1, p.2.1, p.2.2.1, p.2.2.2⟩) (fun _ => rfl) (fun _ => rfl)

theorem option_length {α : Type} (c : Codec α) (size : α → ℕ) (h : ∀ a, (c.encode a).length = size a)
    (o : Option α) : (c.option.encode o).length = optionSize size o := by
  cases o with
  | none => rfl
  | some a =>
    have hl : (c.option.encode (some a)).length = (c.encode a).length + 1 := rfl
    rw [hl, h, optionSize, Nat.add_comm]

theorem text_size (s : String) : (Codec.text.encode s).length = textSize s := Codec.text_length s

theorem u16_size (n : UInt16) : (Codec.u16.encode n).length = 2 := Codec.uint_length _ _ _ _ _ n

theorem proxy_length (c : ReverseProxyConfig) : (proxy.encode c).length = proxySize c := by
  simp only [proxy, Codec.map, Codec.pair_length, option_length _ _ text_size, text_size, u16_size, proxySize]
  omega

theorem proxy_ne_nil (c : ReverseProxyConfig) : proxy.encode c ≠ [] := by
  apply List.length_pos_iff.mp
  rw [proxy_length, proxySize]
  omega

def clientHello : Codec ClientHello :=
  (Codec.byte.pair (Codec.text.pair (Codec.u32.option.pair ((proxy.list proxy_ne_nil).pair Codec.text)))).map
    (fun h => (h.version, h.token, h.totpCode, h.proxies, h.configHash))
    (fun p => ⟨p.1, p.2.1, p.2.2.1, p.2.2.2.1, p.2.2.2.2⟩) (fun _ => rfl) (fun _ => rfl)

theorem u16_ne_nil (n : UInt16) : Codec.u16.encode n ≠ [] := by
  apply List.length_pos_iff.mp
  rw [u16_size]
  decide

def serverHello : Codec ServerHello :=
  (Codec.byte.pair (status.pair (Codec.text.pair ((Codec.u16.list u16_ne_nil).pair Codec.text.option)))).map
    (fun h => (h.version, h.status, h.message, h.allowedPorts, h.sessionId))
    (fun p => ⟨p.1, p.2.1, p.2.2.1, p.2.2.2.1, p.2.2.2.2⟩) (fun _ => rfl) (fun _ => rfl)

inductive Tag where
  | clientHello
  | serverHello
  | ping
  | pong
  deriving DecidableEq

def tagIndex : Tag → ℕ
  | .clientHello => 0
  | .serverHello => 1
  | .ping => 2
  | .pong => 3

def tagOf : ℕ → Option Tag
  | 0 => some .clientHello
  | 1 => some .serverHello
  | 2 => some .ping
  | 3 => some .pong
  | _ => none

def tag : Codec Tag :=
  .uint 4 tagIndex tagOf (by intro t; cases t <;> decide) (by intro t; cases t <;> rfl)

def Payload : Tag → Type
  | .clientHello => ClientHello
  | .serverHello => ServerHello
  | .ping => Unit
  | .pong => Unit

def payload : ∀ t, Codec (Payload t)
  | .clientHello => clientHello
  | .serverHello => serverHello
  | .ping => Codec.unit
  | .pong => Codec.unit

def variant : ControlMessage → Sigma Payload
  | .clientHello h => ⟨.clientHello, h⟩
  | .serverHello h => ⟨.serverHello, h⟩
  | .ping => ⟨.ping, ()⟩
  | .pong => ⟨.pong, ()⟩

def ofVariant : Sigma Payload → ControlMessage
  | ⟨.clientHello, h⟩ => .clientHello h
  | ⟨.serverHello, h⟩ => .serverHello h
  | ⟨.ping, _⟩ => .ping
  | ⟨.pong, _⟩ => .pong

theorem variant_ofVariant : ∀ p, variant (ofVariant p) = p
  | ⟨.clientHello, _⟩ => rfl
  | ⟨.serverHello, _⟩ => rfl
  | ⟨.ping, _⟩ => rfl
  | ⟨.pong, _⟩ => rfl

def message : Codec ControlMessage :=
  (Codec.sigma tag payload).map variant ofVariant (fun m => by cases m <;> rfl) variant_ofVariant

theorem message_length (m : ControlMessage) : (message.encode m).length = encodedSize m := by
  have ht : ∀ t, (tag.encode t).length = 4 := Codec.uint_length _ _ _ _ _
  have hb : ∀ b, (Codec.byte.encode b).length = 1 := Codec.uint_length _ _ _ _ _
  have hw : ∀ n, (Codec.u32.encode n).length = 4 := Codec.uint_length _ _ _ _ _
  have hs : ∀ s, (status.encode s).length = 4 := Codec.uint_length _ _ _ _ _
  have hp : (fun c => (proxy.encode c).length) = proxySize := funext proxy_length
  have hsplit : (message.encode m).length = (tag.encode (variant m).1).length +
      ((payload (variant m).1).encode (variant m).2).length := List.length_append
  rw [hsplit, ht]
  cases m with
  | clientHello h =>
    simp only [variant, payload, clientHello, Codec.map, Codec.pair_length, hb, text_size, option_length _ _ hw,
      Codec.list_length, hp, encodedSize, listSize]
    omega
  | serverHello h =>
    simp only [variant, payload, serverHello, Codec.map, Codec.pair_length, hb, hs, text_size, u16_size,
      Codec.list_length, option_length _ _ text_size, encodedSize, listSize]
    omega
  | ping => rfl
  | pong => rfl

def serialize (m : ControlMessage) : Except String Bytes :=
  if (message.encode m).length < 2 ^ 64 then .ok (message.encode m)
  else .error "the size limit has been reached"

def deserialize (bytes : Bytes) : Except String ControlMessage :=
  match message.decode bytes with
  | some (m, _) => .ok m
  | none => .error "io error: unexpected end of file"

end GscFq.Bincode
