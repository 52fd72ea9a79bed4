import GscFq.Errors
import GscFq.IpAddr

namespace GscFq

open Text

structure ServerSection where
  bindIp : Option String
  debug : Option Bool
  deriving DecidableEq, Repr

structure ProxySection where
  localAddr : String
  remote : String
  sourceIp : Option String
  allowIps : Option (List String)
  maxConnsPerIp : Option ℕ
  cpsLimit : Option Float
  deriving Repr

structure ReverseProxySection where
  server : String
  localAddr : String
  sourceIp : Option String
  deriving DecidableEq, Repr

structure ReverseProxyServerSection where
  port : UInt16
  allowedTokens : List String
  totpSecret : Option String
  deriving DecidableEq, Repr

structure ReverseProxyClientSection where
  server : String
  token : Option String
  totpSecret : Option String
  deriving DecidableEq, Repr

structure ConfigFile where
  server : Option ServerSection
  proxies : List ProxySection
  token : Option String
  totpSecret : Option String
  reverseProxies : List ReverseProxySection
  reverseProxyServer : Option ReverseProxyServerSection
  reverseProxyClient : Option ReverseProxyClientSection
  deriving Repr

def invalidValue (path reason : String) : AppError := .config (.invalidConfigValue path reason)

def parsePort (path text reason : String) : Except AppError UInt16 :=
  match parseU16 text with
  | some port => .ok port
  | none => .error (invalidValue path reason)

/-- The port of a `HOST:PORT` or `PORT` field: what stands after the last colon. -/
def portAfterColon (path text : String) : Except AppError UInt16 :=
  if contains ':' text then
    let parts := rsplit ':' text
    if parts.length < 2 then .error (invalidValue path ("Invalid " ++ path ++ " format '" ++ text ++ "'"))
    else parsePort path (parts.getD 0 "") ("Invalid port number in '" ++ text ++ "'")
  else parsePort path text ("Invalid port number '" ++ text ++ "'")

def hostBeforeColon (text : String) : String := join ':' (split ':' text).dropLast

namespace ProxySection

def getLocalPort (p : ProxySection) : Except AppError UInt16 :=
  if contains ':' p.localAddr then
    let parts := split ':' p.localAddr
    if parts.length ≠ 2 then
      .error (invalidValue "local"
        ("Invalid local format '" ++ p.localAddr ++ "', expected 'IP:PORT' or 'PORT'"))
    else parsePort "local" (parts.getD 1 "") ("Invalid port number in '" ++ p.localAddr ++ "'")
  else parsePort "local" p.localAddr ("Invalid port number '" ++ p.localAddr ++ "'")

def getLocalIp (p : ProxySection) : Option String :=
  if contains ':' p.localAddr then
    let parts := split ':' p.localAddr
    if parts.length = 2 then some (parts.getD 0 "") else none
  else none

def getRemoteHost (p : ProxySection) : Except AppError String :=
  if contains ':' p.remote then
    if (split ':' p.remote).length < 2 then
      .error (invalidValue "remote"
        ("Invalid remote format '" ++ p.remote ++ "', expected 'HOST:PORT' or 'PORT'"))
    else .ok (hostBeforeColon p.remote)
  else .ok "localhost"

def getRemotePort (p : ProxySection) : Except AppError UInt16 := portAfterColon "remote" p.remote

end ProxySection

namespace ReverseProxySection

def getServerPort (r : ReverseProxySection) : Except AppError UInt16 := portAfterColon "server" r.server

def getServerIp (r : ReverseProxySection) : Option String :=
  if contains ':' r.server then
    if 2 ≤ (split ':' r.server).length then some (hostBeforeColon r.server) else none
  else none

def getLocalPort (r : ReverseProxySection) : Except AppError UInt16 := portAfterColon "local" r.localAddr

def getLocalHost (r : ReverseProxySection) : Option String :=
  if contains ':' r.localAddr then
    if 2 ≤ (split ':' r.localAddr).length then some (hostBeforeColon r.localAddr) else some "localhost"
  else some "localhost"

end ReverseProxySection

namespace ConfigLoader

def parseIpAddress (ipStr : String) : Except AppError IpAddr :=
  let trimmed := trim ipStr
  match IpAddr.parse trimmed with
  | some ip => .ok ip
  | none => .error (.config (.invalidIpAddress trimmed))

def createSocketAddr (host : String) (port : UInt16) : Except AppError SocketAddr :=
  match IpAddr.parse host with
  | some ip => .ok (.new ip port)
  | none => .error (.config (.invalidIpAddress ("Invalid IP address '" ++ host ++
      "'. Tunnel proxy requires IP addresses, not hostnames. Use nslookup or dig to resolve hostnames manually.")))

end ConfigLoader

end GscFq
