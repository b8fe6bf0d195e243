import BoundedTls.Time.Duration

/-!
# Settings

The settings of the program, section by section, with their defaults.
-/

namespace BoundedTls.Config

/-- The sections of the settings. -/
inductive SectionName where
  | listener
  | handshake
  | tls
  | observability
deriving DecidableEq, Repr

/-- The name of a section. -/
def SectionName.text : SectionName → String
  | listener => "listener"
  | handshake => "handshake"
  | tls => "tls"
  | observability => "observability"

/-- Where to listen and how many connections to hold. -/
structure ListenerSettings where
  bindAddress : String := "127.0.0.1:8443"
  maxConnections : UInt64 := 1024
deriving DecidableEq, Repr

/-- The deadline of a handshake and the options of its socket. -/
structure HandshakeSettings where
  timeoutMs : UInt64 := 5000
  /-- Small packets are sent at once. -/
  nodelay : Bool := true
deriving DecidableEq, Repr

/-- The deadline as a span of time. -/
def HandshakeSettings.timeout (s : HandshakeSettings) : Time.Duration :=
  Time.Duration.ofMillis s.timeoutMs

/-- Certificate material. A server needs a certificate chain and its key, a client the
authorities it trusts. -/
structure TlsSettings where
  certPath : Option String := none
  keyPath : Option String := none
  caPath : Option String := none
  /-- The name that a client verifies the server against. -/
  serverName : Option String := none
deriving DecidableEq, Repr

/-- What to log. -/
structure LogSettings where
  level : String := "info"
deriving DecidableEq, Repr

/-- All settings. -/
structure Settings where
  listener : ListenerSettings := {}
  handshake : HandshakeSettings := {}
  tls : TlsSettings := {}
  observability : LogSettings := {}
deriving DecidableEq, Repr

end BoundedTls.Config
