import BoundedTls.Connection.Phase
import BoundedTls.Fault.Basic
import BoundedTls.Time.Duration

/-!
# Errors of connections and listeners

The first two and the last error of a connection are reported at once; the outcome of a handshake
is a timeout, a rejection by the engine or a fault of the transport.
-/

namespace BoundedTls

open BoundedTls.Time

/-- Why a connection could not be set up or secured. -/
inductive ConnectionError where
  /-- Nobody was named who supplies the TLS context. -/
  | noProvider
  /-- The supplied context does not serve the role, or there was none. -/
  | unusableContext
  /-- The handshake did not end in time. -/
  | timeout (after : Duration)
  /-- The TLS engine has rejected the handshake. -/
  | rejected (fault : Fault)
  /-- The transport has failed; the fault is passed on as it is. -/
  | transport (fault : Fault)
  /-- The operation does not fit the phase. -/
  | wrongPhase (phase : Phase)
deriving DecidableEq, Repr

namespace ConnectionError

/-- Sort the fault of a handshake into a rejection by the engine or a fault of the transport. -/
def ofHandshake (fault : Fault) : ConnectionError :=
  if fault.engineFailure?.isSome then rejected fault else transport fault

/-- The error is a timeout. -/
def isTimeout : ConnectionError → Bool
  | timeout _ => true
  | _ => false

/-- The error as a message. -/
def message : ConnectionError → String
  | noProvider => "no TLS init handler configured"
  | unusableContext => "TLS init handler returned no usable context"
  | timeout after => "TLS handshake did not complete within " ++ after.render
  | rejected fault => "TLS handshake failed: " ++ fault.message
  | transport fault => "transport error: " ++ fault.message
  | wrongPhase phase => "operation not allowed in state " ++ phase.name

/-- The error with its kind and parts. -/
def describe : ConnectionError → String
  | noProvider => "MissingTlsInitHandler"
  | unusableContext => "InvalidTlsContext"
  | timeout after => "HandshakeTimeout(" ++ after.render ++ ")"
  | rejected fault => "HandshakeFailed(" ++ fault.describe ++ ")"
  | transport fault => "PassThrough(" ++ fault.describe ++ ")"
  | wrongPhase phase => "InvalidState(" ++ phase.name ++ ")"

/-- The message of the fault behind the error. -/
def source? : ConnectionError → Option String
  | rejected fault | transport fault => some fault.message
  | _ => none

end ConnectionError

/-- Why listening, accepting or dialling failed. -/
inductive ListenerError where
  | bind (fault : Fault)
  | accept (fault : Fault)
  | connect (fault : Fault)
  | closed
  /-- The stream could not be made a secure connection. -/
  | transport (error : ConnectionError)
deriving DecidableEq, Repr

namespace ListenerError

/-- The error as a message. -/
def message : ListenerError → String
  | bind fault => "Failed to bind: " ++ fault.message
  | accept fault => "Failed to accept: " ++ fault.message
  | connect fault => "Failed to connect: " ++ fault.message
  | closed => "Listener closed"
  | transport error => "Failed to initialize transport: " ++ error.message

/-- The error with its kind and parts. -/
def describe : ListenerError → String
  | bind fault => "Bind(" ++ fault.describe ++ ")"
  | accept fault => "Accept(" ++ fault.describe ++ ")"
  | connect fault => "Connect(" ++ fault.describe ++ ")"
  | closed => "Closed"
  | transport error => "Transport(" ++ error.describe ++ ")"

/-- The message of what lies behind the error. -/
def source? : ListenerError → Option String
  | bind fault | accept fault | connect fault => some fault.message
  | closed => none
  | transport error => some error.message

end ListenerError

end BoundedTls
