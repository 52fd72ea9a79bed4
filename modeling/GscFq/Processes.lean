import GscFq.ConfigSearch
import GscFq.HandshakeProvenance
import GscFq.ProvisionedSides
import GscFq.Runtime

/-!
`main`: a process prints a new secret, or finds its configuration and runs what it names. Two processes meet in the
handshake of the client of one with the server of the other.
-/

namespace GscFq.Processes

open ControlMessage HandshakeLink RuntimeManager

/-- What a process is started with; `token` is the value of `REVERSE_PROXY_TOKEN`. -/
structure Launch where
  env : ConfigLoader.Environment
  token : Option String
  random : Vector UInt8 10

inductive Process where
  | printed (provisioned : Totp.Provisioned)
  | unconfigured (e : ConfigLoader.LoadError)
  | running (config : ConfigFile) (started : Started)

/-- `none` is the panic of the sanitizer. -/
def main (fromToml : String → Except ConfigLoader.TomlError ConfigFile) (launch : Launch) : Option Process :=
  match Totp.provision launch.env.args launch.random with
  | some provisioned => some (.printed provisioned)
  | none => (ConfigLoader.loadWithSearch fromToml launch.env).map (fun
      | .ok (config, _) => .running config (run launch.token config)
      | .error e => .unconfigured e)

variable {fromToml : String → Except ConfigLoader.TomlError ConfigFile} {X : Externals}

/-- The process runs this server, or this client. -/
def Serves (fromToml : String → Except ConfigLoader.TomlError ConfigFile) (launch : Launch) (service : Service) : Prop :=
  ∃ config started, main fromToml launch = some (.running config started) ∧ service ∈ started.services

/-- The section of the server names another token and asks for codes; neither counts. -/
def sampleConfig : ConfigFile :=
  ⟨none, [], none, none, [⟨"8080", "3000", none⟩], some ⟨9001, ["another-token"], some "JBSWY3DPEHPK3PXP"⟩,
    some ⟨"127.0.0.1:9001", none, some "s3cret!"⟩⟩

def sampleServer : ReverseProxyServer := .new (some "my-secret-token") (.v4 0 0 0 0) 9001

def sampleClient : ReverseProxyClient := .new (some "my-secret-token") (.new (.v4 127 0 0 1) 9001) sampleConfig

end GscFq.Processes
