import GscFq.ConfigFile

namespace GscFq

open Text

structure Report where
  warnings : List String
  errors : List String
  deriving DecidableEq, Repr

namespace Report

def warn (r : Report) (text : String) : Report := { r with warnings := r.warnings ++ [text] }

def fail (r : Report) (text : String) : Report := { r with errors := r.errors ++ [text] }

def failIf (r : Report) (b : Bool) (text : String) : Report := if b then r.fail text else r

end Report

def validateServices (c : ConfigFile) (r : Report) : Report :=
  r.failIf (!c.reverseProxies.isEmpty && c.reverseProxyServer.isNone && c.reverseProxyClient.isNone)
    ("Reverse proxies configured but neither reverse_proxy_server nor reverse_proxy_client specified")

def validateBindIp (server : Option ServerSection) (r : Report) : Option ServerSection × Report :=
  match server with
  | none => (none, r)
  | some s =>
    match s.bindIp with
    | none => (some s, r)
    | some current =>
      let trimmed := trim current
      if trimmed = "" then
        (some { s with bindIp := some "127.0.0.1" },
          r.warn "server.bind_ip is empty, falling back to default 127.0.0.1")
      else if (IpAddr.parse trimmed).isNone then
        (some s, r.fail ("server.bind_ip '" ++ trimmed ++ "' is not a valid IP address"))
      else if trimmed ≠ current then (some { s with bindIp := some trimmed }, r)
      else (some s, r)

def validateSourceIp (label : String) (sourceIp : Option String) (r : Report) : Option String × Report :=
  match sourceIp with
  | none => (none, r)
  | some ip =>
    let trimmed := trim ip
    if trimmed = "" then (none, r.warn (label ++ ".source_ip is empty and will be ignored"))
    else if eqIgnoreAsciiCase trimmed "null" then
      (none, r.warn (label ++ ".source_ip contains 'null' value; will be ignored"))
    else if (IpAddr.parse trimmed).isNone then
      (some ip, r.fail (label ++ ".source_ip '" ++ trimmed ++ "' is not a valid IP address"))
    else (some ip, r)

def portRange (label field : String) : String := label ++ "." ++ field ++ " port must be between 1 and 65535"

def validateProxy (index : ℕ) (proxy : ProxySection) (seen : List UInt16) (r : Report) :
    ProxySection × List UInt16 × Report :=
  let label := "proxies[" ++ toString index ++ "]"
  match proxy.getLocalPort with
  | .error e => (proxy, seen, r.fail (label ++ ".local: " ++ e.display))
  | .ok localPort =>
    let r := r.failIf (localPort == 0) (portRange label "local")
    match proxy.getRemoteHost with
    | .error e => (proxy, seen, r.fail (label ++ ".remote: " ++ e.display))
    | .ok _ =>
      match proxy.getRemotePort with
      | .error e => (proxy, seen, r.fail (label ++ ".remote: " ++ e.display))
      | .ok remotePort =>
        let r := r.failIf (remotePort == 0) (portRange label "remote")
        let r := r.failIf (seen.contains localPort)
          ("Duplicate local port " ++ toString localPort.toNat ++ " detected in " ++ label)
        let (sourceIp, r) := validateSourceIp label proxy.sourceIp r
        ({ proxy with sourceIp := sourceIp }, localPort :: seen, r)

def validateProxies : ℕ → List ProxySection → List UInt16 → Report → List ProxySection × Report
  | _, [], _, r => ([], r)
  | index, proxy :: rest, seen, r =>
    let (proxy, seen, r) := validateProxy index proxy seen r
    let (rest, r) := validateProxies (index + 1) rest seen r
    (proxy :: rest, r)

def validateReverseProxy (index : ℕ) (rproxy : ReverseProxySection) (seen : List UInt16) (r : Report) :
    List UInt16 × Report :=
  let label := "reverse_proxies[" ++ toString index ++ "]"
  match rproxy.getServerPort with
  | .error e => (seen, r.fail (label ++ ".server: " ++ e.display))
  | .ok serverPort =>
    let r := r.failIf (serverPort == 0) (portRange label "server")
    let r := r.failIf (seen.contains serverPort)
      ("Duplicate server port " ++ toString serverPort.toNat ++ " detected in " ++ label)
    match rproxy.getLocalPort with
    | .error e => (serverPort :: seen, r.fail (label ++ ".local: " ++ e.display))
    | .ok localPort =>
      let r := r.failIf (localPort == 0) (portRange label "local")
      (serverPort :: seen, (validateSourceIp label rproxy.sourceIp r).2)

def validateReverseProxies : ℕ → List ReverseProxySection → List UInt16 → Report → Report
  | _, [], _, r => r
  | index, rproxy :: rest, seen, r =>
    let (seen, r) := validateReverseProxy index rproxy seen r
    validateReverseProxies (index + 1) rest seen r

def ConfigFile.validateReport (c : ConfigFile) : ConfigFile × Report :=
  let r := validateServices c ⟨[], []⟩
  let (server, r) := validateBindIp c.server r
  let (proxies, r) := validateProxies 0 c.proxies [] r
  let r := validateReverseProxies 0 c.reverseProxies [] r
  ({ c with server := server, proxies := proxies }, r)

def ConfigFile.validate (c : ConfigFile) : ConfigFile × Except ConfigError (List String) :=
  let (c, r) := c.validateReport
  if r.errors = [] then (c, .ok r.warnings)
  else (c, .error (.invalidConfigValue "config" (joinWith "; " r.errors)))

end GscFq
