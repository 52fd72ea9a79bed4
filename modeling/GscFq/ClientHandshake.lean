import GscFq.ConfigFile
import GscFq.ServerHandshake

namespace GscFq

open ByteStream Text

structure ReverseProxyClient where
  serverAddr : SocketAddr
  config : ConfigFile
  authToken : Option String
  totpSecret : Option String

namespace ReverseProxyClient

def new (env : Option String) (serverAddr : SocketAddr) (config : ConfigFile) : ReverseProxyClient where
  serverAddr := serverAddr
  config := config
  authToken := env.or (config.reverseProxyServer.bind (fun s => s.allowedTokens.head?))
  totpSecret := config.reverseProxyClient.bind (·.totpSecret)

def handshakeFailed (reason : String) : AppError := .reverseProxy (.handshakeFailed reason)

def parseProxyConfig (rproxy : ReverseProxySection) : Except AppError ReverseProxyConfig :=
  match rproxy.getServerPort with
  | .error e => .error (handshakeFailed ("Invalid server config: " ++ e.display))
  | .ok serverPort =>
    match rproxy.getLocalPort with
    | .error e => .error (handshakeFailed ("Invalid local config: " ++ e.display))
    | .ok localPort =>
      .ok ⟨serverPort, rproxy.getServerIp, rproxy.getLocalHost.getD "localhost", localPort⟩

def parseProxyConfigs (config : ConfigFile) : Except AppError (List ReverseProxyConfig) :=
  config.reverseProxies.mapM parseProxyConfig

def makeHello (X : Externals) (client : ReverseProxyClient) (now : UInt64) (proxies : List ReverseProxyConfig) :
    Except AppError ClientHello :=
  match X.jsonToString proxies with
  | .error e => .error (.reverseProxy (.serializationFailed e))
  | .ok json => .ok {
      version := protocolVersion
      token := client.authToken.getD ""
      totpCode := client.totpSecret.map (fun secret =>
        (Totp.ofSecret X.toTotpPrimitives secret).generate X.toTotpPrimitives now)
      proxies := proxies
      configHash := ReverseProxyServer.configHash X json }

def sendHello (X : Externals) (client : ReverseProxyClient) (now : UInt64) (proxies : List ReverseProxyConfig) :
    Except AppError Bytes :=
  match client.makeHello X now proxies with
  | .error e => .error e
  | .ok hello => ControlMessage.writeTo X (.clientHello hello)

def Sends (X : Externals) (client : ReverseProxyClient) (now : UInt64) (hello : ClientHello) : Prop :=
  ∃ proxies, parseProxyConfigs client.config = .ok proxies ∧ proxies ≠ [] ∧ client.makeHello X now proxies = .ok hello

def readReply (X : Externals) (s : Stream IoError) : Option (Except AppError Unit) :=
  match ControlMessage.readFrom X s with
  | .pending => none
  | .err e => some (.error e)
  | .ok (.serverHello reply) _ =>
    if reply.status = .ok then some (.ok ()) else some (.error (handshakeFailed reply.message))
  | .ok _ _ => some (.error (handshakeFailed "Invalid server response"))

def exposingConfig (server : String) : ConfigFile :=
  ⟨none, [], none, none, [⟨server, "3000", none⟩], none, some ⟨"10.0.0.1:9001", none, none⟩⟩

def exposingClient (server : String) : ReverseProxyClient :=
  .new (some "my-secret-token") (.new (.v4 10 0 0 1) 9001) (exposingConfig server)

end ReverseProxyClient

end GscFq
