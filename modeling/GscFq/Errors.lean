import GscFq.Text

namespace GscFq

structure IoError where
  text : String
  deriving DecidableEq, Repr

inductive ConfigError where
  | invalidIpAddress (ip : String)
  | invalidTomlFormat (reason : String)
  | invalidConfigValue (path reason : String)
  | missingRequiredField (field : String)
  deriving DecidableEq, Repr

inductive ReverseProxyError where
  | protocolError (reason : String)
  | handshakeFailed (reason : String)
  | invalidMessage (reason : String)
  | serializationFailed (reason : String)
  | deserializationFailed (reason : String)
  | connectionFailed (reason : String)
  | unsupportedVersion (version : UInt8)
  | cryptoError (reason : String)
  deriving DecidableEq, Repr

inductive NetworkError where
  | connectionFailed (reason : String)
  | listenFailed (reason : String)
  | invalidSocketOption (reason : String)
  deriving DecidableEq, Repr

inductive ProxyError where
  | forwardingFailed (reason : String)
  deriving DecidableEq, Repr

inductive AppError where
  | config (e : ConfigError)
  | network (e : NetworkError)
  | proxy (e : ProxyError)
  | reverseProxy (e : ReverseProxyError)
  | io (e : IoError)
  | internal (message : String)
  deriving DecidableEq, Repr

def ConfigError.display : ConfigError → String
  | .invalidIpAddress ip => "Invalid IP address: " ++ ip
  | .invalidTomlFormat reason => "Invalid TOML format: " ++ reason
  | .invalidConfigValue path reason => "Invalid configuration value at " ++ path ++ ": " ++ reason
  | .missingRequiredField field => "Missing required configuration field: " ++ field

def ReverseProxyError.display : ReverseProxyError → String
  | .protocolError r => "Protocol error: " ++ r
  | .handshakeFailed r => "Handshake failed: " ++ r
  | .invalidMessage r => "Invalid message: " ++ r
  | .serializationFailed r => "Message serialization failed: " ++ r
  | .deserializationFailed r => "Message deserialization failed: " ++ r
  | .connectionFailed r => "Connection failed: " ++ r
  | .unsupportedVersion v => "Unsupported protocol version: " ++ toString v.toNat
  | .cryptoError r => "Cryptography error: " ++ r

def NetworkError.display : NetworkError → String
  | .connectionFailed r => "Connection failed: " ++ r
  | .listenFailed r => "Listen failed: " ++ r
  | .invalidSocketOption r => "Invalid socket option: " ++ r

def ProxyError.display : ProxyError → String
  | .forwardingFailed r => "Data forwarding failed: " ++ r

def AppError.display : AppError → String
  | .config e => "Configuration error: " ++ e.display
  | .network e => "Network error: " ++ e.display
  | .proxy e => "Proxy error: " ++ e.display
  | .reverseProxy e => "Reverse proxy error: " ++ e.display
  | .io e => "IO error: " ++ e.text
  | .internal message => "Internal error: " ++ message

def forwardingError (label : String) (e : IoError) : AppError := .proxy (.forwardingFailed (label ++ e.text))

end GscFq
