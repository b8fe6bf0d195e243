/-!
# Roles and phases

The two sides of a handshake, and where a connection is in its life:

    idle → ready → handshaking → established | failed | timedOut,   any → shutdown
-/

namespace BoundedTls

/-- The side that a connection takes in the handshake. -/
inductive Role where
  /-- Accepts the handshake. -/
  | server
  /-- Starts the handshake. -/
  | client
deriving DecidableEq, Repr

/-- The name of a role. -/
def Role.name : Role → String
  | server => "Server"
  | client => "Client"

/-- Where a connection is in its life. -/
inductive Phase where
  /-- Made, no stream yet. -/
  | idle
  /-- Stream, context and timer are there, the handshake has not begun. -/
  | ready
  | handshaking
  | established
  | failed
  | timedOut
  | shutdown
deriving DecidableEq, Repr

/-- The name of a phase. -/
def Phase.name : Phase → String
  | idle => "Idle"
  | ready => "Ready"
  | handshaking => "Handshaking"
  | established => "Established"
  | failed => "Failed"
  | timedOut => "TimedOut"
  | shutdown => "Shutdown"

end BoundedTls
