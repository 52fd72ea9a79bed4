import GscFq.ClientHandshake

namespace GscFq

structure ProxyInstance where
  bindAddr : SocketAddr
  remoteAddr : SocketAddr
  sourceIp : Option IpAddr
  allowIps : Option (List String)
  maxConnsPerIp : Option ℕ
  cpsLimit : Option Float

structure ProxyServer where
  bindIp : IpAddr
  proxyInstances : List ProxyInstance

namespace ProxyServer

def new (bindIp : IpAddr) : ProxyServer := ⟨bindIp, []⟩

def addProxy (server : ProxyServer) (p : ProxySection) : Except AppError ProxyServer := do
  let localPort ← p.getLocalPort
  let localBindIp ← match p.getLocalIp with
    | some localIp => ConfigLoader.parseIpAddress localIp
    | none => .ok server.bindIp
  let remoteHost ← p.getRemoteHost
  let remotePort ← p.getRemotePort
  let remoteAddr ← ConfigLoader.createSocketAddr remoteHost remotePort
  let sourceIp ← match p.sourceIp with
    | some ip => (ConfigLoader.parseIpAddress ip).map some
    | none => .ok none
  return { server with proxyInstances := server.proxyInstances ++
    [⟨.new localBindIp localPort, remoteAddr, sourceIp, p.allowIps, p.maxConnsPerIp, p.cpsLimit⟩] }

def build (bindIp : IpAddr) (configs : List ProxySection) : Except AppError ProxyServer :=
  configs.foldlM addProxy (new bindIp)

end ProxyServer

namespace RuntimeManager

inductive Service where
  | forward (server : ProxyServer)
  | reverseServer (server : ReverseProxyServer)
  | reverseClient (client : ReverseProxyClient)

structure Started where
  services : List Service
  outcome : Except AppError Unit

def bindIp (config : ConfigFile) : Except AppError IpAddr :=
  match config.server.bind (·.bindIp) with
  | some text => ConfigLoader.parseIpAddress text
  | none => .ok (.v4 0 0 0 0)

def startForward (bindIp : IpAddr) (config : ConfigFile) : Except AppError (List Service) :=
  if config.proxies.isEmpty then .ok []
  else (ProxyServer.build bindIp config.proxies).map (fun server => [.forward server])

def startReverseServer (env : Option String) (bindIp : IpAddr) (config : ConfigFile) : List Service :=
  match config.reverseProxyServer with
  | some serverConfig => [.reverseServer (ReverseProxyServer.new env bindIp serverConfig.port)]
  | none => []

def startReverseClient (env : Option String) (config : ConfigFile) : Except AppError (List Service) :=
  match config.reverseProxyClient with
  | none => .ok []
  | some clientConfig =>
    match IpAddr.parseSocketAddr clientConfig.server with
    | none => .error (.internal ("Invalid server address: " ++ clientConfig.server))
    | some addr => .ok [.reverseClient (ReverseProxyClient.new env addr config)]

/-- `run` up to the wait for its services; `env` is the value of `REVERSE_PROXY_TOKEN`. -/
def run (env : Option String) (config : ConfigFile) : Started :=
  match bindIp config with
  | .error e => ⟨[], .error e⟩
  | .ok bindIp =>
    match startForward bindIp config with
    | .error e => ⟨[], .error e⟩
    | .ok forward =>
      let started := forward ++ startReverseServer env bindIp config
      match startReverseClient env config with
      | .error e => ⟨started, .error e⟩
      | .ok client =>
        if (started ++ client).isEmpty then
          ⟨[], .error (invalidValue "config" "No services configured")⟩
        else ⟨started ++ client, .ok ()⟩

theorem startForward_services {ip : IpAddr} {config : ConfigFile} {services : List Service}
    (h : startForward ip config = .ok services) {service : Service} (hm : service ∈ services) :
    ∃ server, service = .forward server := by
  unfold startForward at h
  split at h
  · cases h
    cases hm
  · cases hb : ProxyServer.build ip config.proxies with
    | error e => simp [hb, Except.map] at h
    | ok forward =>
      simp only [hb, Except.map, Except.ok.injEq] at h
      exact ⟨forward, List.mem_singleton.mp (h ▸ hm)⟩

theorem startReverseServer_services {env : Option String} {ip : IpAddr} {config : ConfigFile} {service : Service}
    (hm : service ∈ startReverseServer env ip config) :
    ∃ sec, config.reverseProxyServer = some sec ∧ service = .reverseServer (.new env ip sec.port) := by
  unfold startReverseServer at hm
  split at hm
  · rename_i sec hsec
    exact ⟨sec, hsec, List.mem_singleton.mp hm⟩
  · cases hm

theorem startReverseClient_services {env : Option String} {config : ConfigFile} {services : List Service}
    (h : startReverseClient env config = .ok services) {service : Service} (hm : service ∈ services) :
    ∃ addr, service = .reverseClient (.new env addr config) := by
  unfold startReverseClient at h
  split at h
  · cases h
    cases hm
  · split at h
    · cases h
    · rename_i addr _
      cases h
      exact ⟨addr, List.mem_singleton.mp hm⟩

/-- `run` starts nothing, or its services in their order; without an error the client is the last of them. -/
theorem run_cases (env : Option String) (config : ConfigFile) :
    ((run env config).services = [] ∧ ∃ e, (run env config).outcome = .error e) ∨
      ∃ ip forward client, bindIp config = .ok ip ∧ startForward ip config = .ok forward ∧
        (run env config).services = forward ++ startReverseServer env ip config ++ client ∧
        (startReverseClient env config = .ok client ∨ client = [] ∧ ∃ e, (run env config).outcome = .error e) := by
  cases hip : bindIp config with
  | error e =>
    have hrun : run env config = ⟨[], .error e⟩ := by simp only [run, hip]
    rw [hrun]
    exact Or.inl ⟨rfl, e, rfl⟩
  | ok ip =>
    cases hf : startForward ip config with
    | error e =>
      have hrun : run env config = ⟨[], .error e⟩ := by simp only [run, hip, hf]
      rw [hrun]
      exact Or.inl ⟨rfl, e, rfl⟩
    | ok forward =>
      cases hc : startReverseClient env config with
      | error e =>
        have hrun : run env config = ⟨forward ++ startReverseServer env ip config, .error e⟩ := by
          simp only [run, hip, hf, hc]
        rw [hrun]
        exact Or.inr ⟨ip, forward, [], rfl, hf, (List.append_nil _).symm, Or.inr ⟨rfl, e, rfl⟩⟩
      | ok client =>
        simp only [run, hip, hf, hc]
        split
        · exact Or.inl ⟨rfl, _, rfl⟩
        · exact Or.inr ⟨ip, forward, client, rfl, hf, rfl, Or.inl rfl⟩

theorem run_services {env : Option String} {config : ConfigFile} {service : Service}
    (h : service ∈ (run env config).services) :
    (∃ server, service = .forward server) ∨
      (∃ ip sec, config.reverseProxyServer = some sec ∧ service = .reverseServer (.new env ip sec.port)) ∨
      ∃ addr, service = .reverseClient (.new env addr config) := by
  rcases run_cases env config with ⟨hnil, -⟩ | ⟨ip, forward, client, -, hf, hall, hclient⟩
  · rw [hnil] at h
    cases h
  · rw [hall] at h
    rcases List.mem_append.mp h with h | h
    · rcases List.mem_append.mp h with h | h
      · exact Or.inl (startForward_services hf h)
      · exact Or.inr (Or.inl ⟨ip, startReverseServer_services h⟩)
    · rcases hclient with hc | ⟨rfl, -⟩
      · exact Or.inr (Or.inr (startReverseClient_services hc h))
      · cases h

theorem run_reverseServer {env : Option String} {config : ConfigFile} {server : ReverseProxyServer}
    (h : Service.reverseServer server ∈ (run env config).services) :
    ∃ ip sec, config.reverseProxyServer = some sec ∧ server = .new env ip sec.port := by
  rcases run_services h with ⟨_, he⟩ | ⟨ip, sec, hsec, he⟩ | ⟨_, he⟩
  · cases he
  · exact ⟨ip, sec, hsec, Service.reverseServer.inj he⟩
  · cases he

theorem run_reverseClient {env : Option String} {config : ConfigFile} {client : ReverseProxyClient}
    (h : Service.reverseClient client ∈ (run env config).services) : ∃ addr, client = .new env addr config := by
  rcases run_services h with ⟨_, he⟩ | ⟨_, _, _, he⟩ | ⟨addr, he⟩
  · cases he
  · cases he
  · exact ⟨addr, Service.reverseClient.inj he⟩

end RuntimeManager

end GscFq
