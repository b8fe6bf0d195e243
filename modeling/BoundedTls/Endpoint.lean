import BoundedTls.Config.Settings
import BoundedTls.Connection.Basic

/-!
# Endpoints

The handlers and the deadline that all connections of a listener or a client share. An endpoint
stamps them onto a connection; what happens to the endpoint later does not reach the connection.
-/

namespace BoundedTls

open BoundedTls.Time

/-- Shared settings of connections. -/
structure Endpoint where
  preparer : Option StreamPreparer := none
  provider : Option TlsProvider := none
  timeout : Duration := defaultTimeout

namespace Endpoint

/-- The endpoint that the settings describe: their deadline, and a preparer if small packets are
to be sent at once. -/
def ofSettings (s : Config.HandshakeSettings) : Endpoint :=
  { timeout := s.timeout, preparer := if s.nodelay then some ⟨true, false⟩ else none }

/-- Name the one who prepares the raw streams. -/
def setPreparer (e : Endpoint) (preparer : StreamPreparer) : Endpoint :=
  { e with preparer := some preparer }

/-- Name the one who supplies the TLS contexts. -/
def setProvider (e : Endpoint) (provider : TlsProvider) : Endpoint :=
  { e with provider := some provider }

/-- Set the deadline. -/
def setTimeout (e : Endpoint) (timeout : Duration) : Endpoint :=
  { e with timeout }

/-- Put the settings of the endpoint onto a connection. -/
def stamp (e : Endpoint) (c : Connection) : Connection × List Effect :=
  ({ c with preparer := e.preparer, provider := e.provider, timeout := e.timeout },
    [.log (.stamped c.handle)])

/-- A new connection with the settings of the endpoint. -/
def connection (e : Endpoint) (handle : Handle) : Connection × List Effect :=
  e.stamp (Connection.new handle)

/-- The endpoint with its parts, for diagnostics. -/
def describe (e : Endpoint) : String :=
  let presence (there : Bool) : String := if there then "true" else "false"
  "Endpoint \x7b socket_init_handler: " ++ presence e.preparer.isSome
    ++ ", tls_init_handler: " ++ presence e.provider.isSome
    ++ ", handshake_timeout: " ++ e.timeout.render ++ " \x7d"

end Endpoint

end BoundedTls
