import BoundedTls.Config.Settings
import BoundedTls.Address.Socket
import BoundedTls.Address.ServerName
import BoundedTls.Log.Level

/-!
# Rules for settings

Six rules that settings must keep. A check reports every rule that is broken, in a fixed order,
with the offending text unchanged.
-/

namespace BoundedTls.Config

open BoundedTls.Text BoundedTls.Address

/-- A rule that settings break. -/
inductive Violation where
  | badBindAddress (text : String)
  | noConnections
  | noTimeout
  | halfIdentity
  | badServerName (text : String)
  | badLogLevel (text : String)
deriving DecidableEq, Repr

namespace Violation

/-- The section that a rule is about. -/
def inSection : Violation → SectionName
  | badBindAddress _ | noConnections => .listener
  | noTimeout => .handshake
  | halfIdentity | badServerName _ => .tls
  | badLogLevel _ => .observability

/-- The broken rule as a message. -/
def message : Violation → String
  | badBindAddress text => "listener.bind_address " ++ quoted text ++ " is not a socket address"
  | noConnections => "listener.max_connections must be greater than zero"
  | noTimeout => "handshake.timeout_ms must be greater than zero"
  | halfIdentity => "tls.cert_path and tls.key_path must be set together"
  | badServerName text =>
    "tls.server_name " ++ quoted text ++ " is not a valid DNS name or IP address"
  | badLogLevel text =>
    "observability.log_level " ++ quoted text ++ " is not one of trace, debug, info, warn, error"

/-- The broken rule with its parts. -/
def describe : Violation → String
  | badBindAddress text => "InvalidBindAddress(" ++ quoted text ++ ")"
  | noConnections => "ZeroMaxConnections"
  | noTimeout => "ZeroHandshakeTimeout"
  | halfIdentity => "IncompleteServerIdentity"
  | badServerName text => "InvalidServerName(" ++ quoted text ++ ")"
  | badLogLevel text => "InvalidLogLevel(" ++ quoted text ++ ")"

end Violation

/-- The violation, if the rule is broken. -/
def unlessKept (kept : Bool) (violation : Violation) : List Violation :=
  if kept then [] else [violation]

namespace Settings

/-- The bind address is a socket address. -/
def hasBindAddress (s : Settings) : Bool :=
  (SocketAddress.parse? s.listener.bindAddress).isSome

/-- Certificate chain and key are both set or both unset. -/
def hasWholeIdentity (s : Settings) : Bool :=
  s.tls.certPath.isSome == s.tls.keyPath.isSome

/-- The server name is unset or well formed. -/
def badServerName? (s : Settings) : Option String :=
  s.tls.serverName.filter fun name => (ServerName.parse? name).isNone

/-- The log level is one of the five. -/
def hasLogLevel (s : Settings) : Bool :=
  (Log.Level.ofName? s.observability.level).isSome

/-- Every rule that the settings break. -/
def violations (s : Settings) : List Violation :=
  unlessKept s.hasBindAddress (.badBindAddress s.listener.bindAddress)
    ++ unlessKept (s.listener.maxConnections != 0) .noConnections
    ++ unlessKept (s.handshake.timeoutMs != 0) .noTimeout
    ++ unlessKept s.hasWholeIdentity .halfIdentity
    ++ (s.badServerName?.map Violation.badServerName).toList
    ++ unlessKept s.hasLogLevel (.badLogLevel s.observability.level)

/-- Settings that break no rule pass. -/
def validate (s : Settings) : Except (List Violation) Unit :=
  if s.violations.isEmpty then .ok () else .error s.violations

end Settings

end BoundedTls.Config
