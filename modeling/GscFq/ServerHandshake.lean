import GscFq.Protocol
import GscFq.IpAddr

namespace GscFq

open ByteStream Text

structure ReverseProxyServer where
  controlAddr : SocketAddr
  authToken : Option String
  allowedTokens : List String
  totpSecret : Option String
  deriving DecidableEq, Repr

namespace ReverseProxyServer

def new (env : Option String) (bindIp : IpAddr) (controlPort : UInt16) : ReverseProxyServer :=
  ⟨.new bindIp controlPort, env, [], none⟩

def withTotpSecret (srv : ReverseProxyServer) (secret : Option String) : ReverseProxyServer :=
  { srv with totpSecret := secret }

def newWithAuth (bindIp : IpAddr) (controlPort : UInt16) (authToken : Option String)
    (allowedTokens : List String) : ReverseProxyServer :=
  ⟨.new bindIp controlPort, authToken, allowedTokens, none⟩

def tokenValid (srv : ReverseProxyServer) (token : String) : Bool :=
  match srv.authToken with
  | some serverToken => token == serverToken || srv.allowedTokens.contains token
  | none => true

def totpValid (X : Externals) (srv : ReverseProxyServer) (now : UInt64) (code : Option UInt32) : Bool :=
  match srv.totpSecret with
  | none => true
  | some secret =>
    let totp := Totp.ofSecret X.toTotpPrimitives secret
    match code with
    | some code => totp.verify X.toTotpPrimitives now code
    | none => false

def configHash (X : Externals) (json : String) : String := lowerHex (X.sha256 (utf8 json))

inductive Verdict where
  | accept (reply : ServerHello)
  | refuse (reply : ServerHello) (e : AppError)
  | fail (e : AppError)
  deriving DecidableEq, Repr

def refusal (status : HandshakeStatus) (message : String) (e : ReverseProxyError) : Verdict :=
  .refuse ⟨protocolVersion, status, message, [], none⟩ (.reverseProxy e)

def sessionId (stamp : UInt64) (addr : SocketAddr) : String :=
  "session_" ++ toString stamp.toNat ++ "_" ++ addr.display

def okReply (stamp : UInt64) (addr : SocketAddr) (proxies : List ReverseProxyConfig) : ServerHello :=
  ⟨protocolVersion, .ok, "Connected, " ++ toString proxies.length ++ " ports allocated",
    proxies.map (·.serverPort), some (sessionId stamp addr)⟩

/-- The checks of `handle_client` on a `ClientHello`; `now` is the clock at the TOTP check, `stamp`
the clock that names the session. -/
def checkHello (X : Externals) (srv : ReverseProxyServer) (now stamp : UInt64) (addr : SocketAddr)
    (hello : ClientHello) : Verdict :=
  if hello.version ≠ protocolVersion then
    refusal .versionMismatch ("Unsupported version: " ++ toString hello.version.toNat)
      (.unsupportedVersion hello.version)
  else if srv.tokenValid hello.token = false then
    refusal .invalidToken "Invalid or missing authentication token"
      (.handshakeFailed "Authentication failed (Token)")
  else if srv.totpValid X now hello.totpCode = false then
    refusal .invalidToken "Invalid or missing TOTP code" (.handshakeFailed "Authentication failed (TOTP)")
  else
    match X.jsonToString hello.proxies with
    | .error e => .fail (.reverseProxy (.serializationFailed e))
    | .ok json =>
      if configHash X json ≠ hello.configHash then
        refusal .invalidConfigHash "Configuration hash mismatch"
          (.handshakeFailed "Configuration integrity check failed")
      else if hello.proxies = [] then
        refusal .configError "No proxy configurations provided" (.handshakeFailed "No proxies")
      else .accept (okReply stamp addr hello.proxies)

structure HandshakeResult where
  sent : List ServerHello
  wire : Bytes
  outcome : Except AppError (List ReverseProxyConfig)
  deriving DecidableEq

/-- `response.write_to(&mut stream).await?`: the write fails with `broken`, when there is one. -/
def send (X : Externals) (broken : Option IoError) (reply : ServerHello) : Except AppError Bytes :=
  match ControlMessage.writeTo X (.serverHello reply), broken with
  | .error e, _ => .error e
  | .ok _, some e => .error (.io e)
  | .ok bytes, none => .ok bytes

def reply (X : Externals) (broken : Option IoError) (r : ServerHello)
    (outcome : Except AppError (List ReverseProxyConfig)) : HandshakeResult :=
  match send X broken r with
  | .error e => ⟨[], [], .error e⟩
  | .ok bytes => ⟨[r], bytes, outcome⟩

def answer (X : Externals) (srv : ReverseProxyServer) (now stamp : UInt64) (addr : SocketAddr)
    (broken : Option IoError) (hello : ClientHello) : HandshakeResult :=
  match srv.checkHello X now stamp addr hello with
  | .fail e => ⟨[], [], .error e⟩
  | .refuse r e => reply X broken r (.error e)
  | .accept r => reply X broken r (.ok hello.proxies)

/-- `handle_client` up to its bind loop; `none` while the first frame has not arrived. -/
def handshake (X : Externals) (srv : ReverseProxyServer) (now stamp : UInt64) (addr : SocketAddr)
    (broken : Option IoError) (control : Stream IoError) : Option HandshakeResult :=
  match ControlMessage.readFrom X control with
  | .pending => none
  | .err e => some ⟨[], [], .error e⟩
  | .ok (.clientHello hello) _ => some (srv.answer X now stamp addr broken hello)
  | .ok _ _ => some ⟨[], [], .error (.reverseProxy (.protocolError "Expected ClientHello"))⟩

def checks (X : Externals) (srv : ReverseProxyServer) (now : UInt64) (hello : ClientHello) :
    List (HandshakeStatus × Bool) :=
  [(.versionMismatch, decide (hello.version = protocolVersion)),
    (.invalidToken, srv.tokenValid hello.token),
    (.invalidToken, srv.totpValid X now hello.totpCode),
    (.invalidConfigHash,
      decide ((X.jsonToString hello.proxies).toOption.map (configHash X) = some hello.configHash)),
    (.configError, decide (hello.proxies ≠ []))]

def firstFailing (X : Externals) (srv : ReverseProxyServer) (now : UInt64) (hello : ClientHello) :
    Option HandshakeStatus :=
  ((srv.checks X now hello).find? (fun c => !c.2)).map Prod.fst

variable (X : Externals) (srv : ReverseProxyServer) (now stamp : UInt64) (addr : SocketAddr)
  (broken : Option IoError) (hello : ClientHello)

theorem checkHello_spec :
    match srv.checkHello X now stamp addr hello with
    | .accept r => srv.firstFailing X now hello = none ∧ r = okReply stamp addr hello.proxies
    | .refuse r _ => srv.firstFailing X now hello = some r.status ∧ r.status ≠ .ok
    | .fail _ => srv.firstFailing X now hello ≠ none := by
  unfold checkHello firstFailing checks
  by_cases hv : hello.version = protocolVersion
  · cases ht : srv.tokenValid hello.token with
    | false => simp [hv, refusal, List.find?]
    | true =>
      cases hp : srv.totpValid X now hello.totpCode with
      | false => simp [hv, refusal, List.find?]
      | true =>
        cases hj : X.jsonToString hello.proxies with
        | error e => simp [hv, List.find?, Except.toOption]
        | ok json =>
          by_cases hh : configHash X json = hello.configHash
          · by_cases he : hello.proxies = []
            · simp [hv, hh, he, refusal, List.find?, Except.toOption]
            · simp [hv, hh, he, List.find?, Except.toOption]
          · simp [hv, hh, refusal, List.find?, Except.toOption]
  · simp [hv, refusal, List.find?]

end ReverseProxyServer

end GscFq
