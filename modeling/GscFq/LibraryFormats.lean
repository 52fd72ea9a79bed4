import GscFq.BincodeFormat

namespace GscFq.Bincode

open ByteStream Text ControlMessage

def jsonChar (c : Char) : List Char :=
  if c = '"' then ['\\', '"']
  else if c = '\\' then ['\\', '\\']
  else if c.toNat = 8 then ['\\', 'b']
  else if c.toNat = 9 then ['\\', 't']
  else if c.toNat = 10 then ['\\', 'n']
  else if c.toNat = 12 then ['\\', 'f']
  else if c.toNat = 13 then ['\\', 'r']
  else if c.toNat < 32 then ['\\', 'u', '0', '0', hexDigit (c.toNat / 16), hexDigit (c.toNat % 16)]
  else [c]

def jsonText (s : String) : String := "\"" ++ String.ofList (s.toList.flatMap jsonChar) ++ "\""

def jsonProxy (c : ReverseProxyConfig) : String :=
  "\x7b\"server_port\":" ++ toString c.serverPort.toNat ++
    ",\"server_host\":" ++ c.serverHost.elim "null" jsonText ++
    ",\"local_host\":" ++ jsonText c.localHost ++
    ",\"local_port\":" ++ toString c.localPort.toNat ++ "\x7d"

def jsonProxies (proxies : List ReverseProxyConfig) : String :=
  "[" ++ joinWith "," (proxies.map jsonProxy) ++ "]"

def externals (P : TotpPrimitives) (sha256 : Bytes → Bytes) : Externals where
  toTotpPrimitives := P
  bincodeSerialize := serialize
  bincodeDeserialize := deserialize
  jsonToString proxies := .ok (jsonProxies proxies)
  sha256 := sha256

theorem serialize_eq {m : ControlMessage} {data : Bytes} (h : serialize m = .ok data) :
    data = message.encode m ∧ (message.encode m).length < 2 ^ 64 := by
  unfold serialize at h
  split at h
  · rename_i hl
    exact ⟨(Except.ok.inj h).symm, hl⟩
  · cases h

theorem externals_lawful (P : TotpPrimitives) (sha256 : Bytes → Bytes) : (externals P sha256).Lawful where
  serialize_ok m h := ⟨message.encode m, if_pos (by rw [message_length]; exact h)⟩
  serialize_length m data h := by
    rw [(serialize_eq h).1, message_length]
  deserialize_serialize m data h := by
    obtain ⟨rfl, hl⟩ := serialize_eq h
    have hd := message.decode_encode m [] hl
    rw [List.append_nil] at hd
    simp only [externals, deserialize, hd]
  deserialize_size m data h := by
    simp only [externals, deserialize] at h
    split at h
    · rename_i m' rest hd
      obtain rfl := Except.ok.inj h
      have hl := message.decode_length _ _ _ hd
      rw [message_length] at hl
      omega
    · cases h
  json_ok proxies := ⟨jsonProxies proxies, rfl⟩

/-- Tables of the library at the inputs of a small session: the digest of the JSON text of
`sampleProxies`, and the codes of the secret `s3cret!`, which is no Base32 text, in its first steps. -/
def sampleProxies : List ReverseProxyConfig := [⟨8080, none, "localhost", 3000⟩]

def sampleSha256 : Bytes :=
  [132, 8, 248, 174, 130, 43, 121, 226, 176, 209, 110, 29, 14, 105, 126, 67, 246, 61, 20, 76, 16, 20, 45, 207,
    104, 227, 185, 117, 162, 24, 222, 121]

def sampleTotp : TotpPrimitives where
  toUppercase s := String.ofList (s.toList.map Char.toUpper)
  base32Decode _ := .error "invalid symbol at 6"
  hmacSha1 _ counter :=
    if counter = toBe 8 1 then
      #v[50, 17, 189, 78, 7, 225, 201, 177, 170, 252, 146, 43, 3, 253, 212, 101, 132, 13, 130, 11]
    else if counter = toBe 8 2 then
      #v[160, 95, 159, 148, 80, 7, 255, 42, 251, 149, 231, 172, 247, 247, 230, 47, 6, 213, 11, 112]
    else #v[255, 215, 22, 223, 160, 208, 178, 92, 176, 209, 36, 252, 118, 15, 212, 255, 30, 55, 176, 121]

def sample : Externals := externals sampleTotp (fun _ => sampleSha256)

def sampleHello : ClientHello := ⟨protocolVersion, "my-secret-token", none, sampleProxies, lowerHex sampleSha256⟩

def sampleHelloFrame : Bytes :=
  toBe 4 (message.encode (.clientHello sampleHello)).length ++ message.encode (.clientHello sampleHello)

end GscFq.Bincode
