import BoundedTls.Address.Socket
import BoundedTls.Connection.Error
import BoundedTls.Connection.Handle
import BoundedTls.Log.Level

/-!
# Log events

Everything the library writes to its log, as one type. An event has a level, a message and named
fields in a fixed order.
-/

namespace BoundedTls.Log

open BoundedTls.Address

/-- The value of a field. -/
inductive Value where
  | text (s : String)
  | number (n : UInt64)
  | boolean (b : Bool)
deriving DecidableEq, Repr

/-- The value as it is printed. -/
def Value.render : Value → String
  | text s => s
  | number n => Text.numeral n.toNat
  | boolean b => if b then "true" else "false"

/-- The parts of the library that write to the log. -/
inductive Source where
  | program
  | endpoint
  | connection
  | listener
  | client
deriving DecidableEq, Repr

/-- The target under which a part writes. -/
def Source.target : Source → String
  | program => "secure_socket"
  | endpoint => "secure_socket::net::endpoint"
  | connection => "secure_socket::net::connection"
  | listener => "secure_socket::net::listener"
  | client => "secure_socket::net::client"

/-- Something that happened. -/
inductive Event where
  /-- An endpoint puts its settings on a connection. -/
  | stamped (handle : Handle)
  /-- The host refuses to send small packets at once. -/
  | nodelayFailed (handle : Handle) (fault : Fault)
  /-- A stream came to a connection that has nobody to supply a TLS context. -/
  | noProvider (handle : Handle)
  | transportReady (handle : Handle) (role : Role)
  | handshakeStarted (handle : Handle) (role : Role) (timeoutMs : UInt64)
  | handshakeTimedOut (handle : Handle) (timeoutMs : UInt64)
  | handshakeComplete (handle : Handle)
  | handshakeFailed (handle : Handle) (error : ConnectionError)
  /-- A handshake had ended after its deadline; its result goes unused. -/
  | lateResult (handle : Handle)
  | shutdownFailed (handle : Handle) (fault : Fault)
  | bound (address : SocketAddress) (maxConnections timeoutMs : UInt64)
  | accepted (peer : SocketAddress) (handle : Handle) (availablePermits : UInt64)
  | connected (peer : SocketAddress) (handle : Handle)
  /-- The program has its settings and begins its work. -/
  | starting (timeoutMs : UInt64) (nodelay : Bool)
  | interrupted
  | acceptFailed (error : ListenerError)
  /-- The server gives a connection up. -/
  | refused (handle : Handle) (peer : SocketAddress) (error : ConnectionError)
  | echoReadFailed (handle : Handle) (fault : Fault)
  | echoWriteFailed (handle : Handle) (fault : Fault)
  | finished
deriving DecidableEq, Repr

namespace Event

/-- How grave an event is. -/
def level : Event → Level
  | stamped _ | transportReady _ _ | lateResult _ => .trace
  | noProvider _ | handshakeStarted _ _ _ | handshakeTimedOut _ _ | handshakeComplete _
  | handshakeFailed _ _ | shutdownFailed _ _ | accepted _ _ _ | connected _ _
  | echoReadFailed _ _ | echoWriteFailed _ _ => .debug
  | bound _ _ _ | starting _ _ | interrupted | finished => .info
  | nodelayFailed _ _ | acceptFailed _ | refused _ _ _ => .warn

/-- Which part writes an event. -/
def source : Event → Source
  | stamped _ | nodelayFailed _ _ => .endpoint
  | noProvider _ | transportReady _ _ | handshakeStarted _ _ _ | handshakeTimedOut _ _
  | handshakeComplete _ | handshakeFailed _ _ | lateResult _ | shutdownFailed _ _ => .connection
  | bound _ _ _ | accepted _ _ _ => .listener
  | connected _ _ => .client
  | starting _ _ | interrupted | acceptFailed _ | refused _ _ _ | echoReadFailed _ _
  | echoWriteFailed _ _ | finished => .program

/-- The message of an event. -/
def message : Event → String
  | stamped _ => "Initializing TLS socket component"
  | nodelayFailed _ _ => "Failed to set TCP_NODELAY"
  | noProvider _ => "No TLS init handler configured"
  | transportReady _ _ => "Transport initialized"
  | handshakeStarted _ _ _ => "TLS handshake started"
  | handshakeTimedOut _ _ => "TLS handshake timed out"
  | handshakeComplete _ => "TLS handshake complete"
  | handshakeFailed _ _ => "TLS handshake failed"
  | lateResult _ => "Discarding late handshake result"
  | shutdownFailed _ _ => "TLS shutdown failed"
  | bound _ _ _ => "Secure listener bound"
  | accepted _ _ _ => "Connection accepted"
  | connected _ _ => "Connected"
  | starting _ _ => "secure-socket v0.1.0 starting"
  | interrupted => "Interrupt received, no longer accepting"
  | acceptFailed _ => "Accept failed"
  | refused _ _ _ => "Handshake failed"
  | echoReadFailed _ _ => "Echo read failed"
  | echoWriteFailed _ _ => "Echo write failed"
  | finished => "Shutdown complete"

/-- The field that names a connection. -/
def ofConnection (handle : Handle) : String × Value :=
  ("connection", .text handle.render)

/-- The field that names an error. -/
def ofError (message : String) : String × Value :=
  ("error", .text message)

/-- The field that names a peer. -/
def ofPeer (peer : SocketAddress) : String × Value :=
  ("peer_addr", .text peer.render)

/-- The fields of an event in their order. -/
def fields : Event → List (String × Value)
  | stamped h | noProvider h | handshakeComplete h | lateResult h => [ofConnection h]
  | transportReady h role => [ofConnection h, ("role", .text role.name)]
  | handshakeStarted h role ms =>
    [ofConnection h, ("role", .text role.name), ("timeout_ms", .number ms)]
  | handshakeTimedOut h ms => [ofConnection h, ("timeout_ms", .number ms)]
  | handshakeFailed h error => [ofConnection h, ofError error.message]
  | nodelayFailed h fault | shutdownFailed h fault | echoReadFailed h fault
  | echoWriteFailed h fault =>
    [ofConnection h, ofError fault.message]
  | bound address max ms =>
    [("address", .text address.render), ("max_connections", .number max),
      ("handshake_timeout_ms", .number ms)]
  | accepted peer h available =>
    [ofPeer peer, ofConnection h, ("available_permits", .number available)]
  | connected peer h => [ofPeer peer, ofConnection h]
  | starting ms nodelay => [("handshake_timeout_ms", .number ms), ("nodelay", .boolean nodelay)]
  | acceptFailed error => [ofError error.message]
  | refused h peer error => [ofConnection h, ofPeer peer, ofError error.message]
  | interrupted | finished => []

end Event

end BoundedTls.Log
