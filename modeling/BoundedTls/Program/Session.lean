import BoundedTls.Listener
import BoundedTls.Program.Echo

/-!
# Sessions

What the server does for one client: it secures the connection that was accepted, echoes, and shuts
the connection down. The session holds the slot of the client until then.
-/

namespace BoundedTls.Program

open BoundedTls.Address BoundedTls.Time

/-- What a session is in the middle of. -/
inductive Session.Standing where
  /-- The connection was accepted, and nothing was done with it yet. -/
  | accepted
  | securing (task : HandshakeTask)
  | echoing (stream : StreamId) (echo : Echo)
  /-- All that is left is to shut the connection down. -/
  | leaving
  /-- The shutdown waits for the farewell to this stream. -/
  | parting (stream : StreamId)
  /-- The connection is shut down. -/
  | closed
deriving DecidableEq, Repr

/-- A client that is served. -/
structure Session where
  connection : Connection
  peer : SocketAddress
  /-- The slot of the client, until it is given back. -/
  permit : Option Permit
  standing : Session.Standing := .accepted

namespace Session

/-- The callback of the handshake was told that the connection is secured. -/
def isSecured (r : Report) : Bool :=
  r.callbacks.any Except.isOk

/-- The handshake is over, and this is the report about it. A failure is logged; only a secured
stream is echoed. -/
def learn (s : Session) (r : Report) : Session × List Effect :=
  let refused := r.errors.map fun e => Effect.log (.refused s.connection.handle s.peer e)
  match s.connection.securedStream with
  | some stream =>
    if isSecured r then ({ s with standing := .echoing stream .reading }, refused)
    else ({ s with standing := .leaving }, refused)
  | none => ({ s with standing := .leaving }, refused)

/-- Begin the handshake. -/
def begin (s : Session) (now : Instant) : Session × List Effect :=
  let started := s.connection.start now
  let s := { s with connection := started.connection }
  match started.result with
  | .ok task => ({ s with standing := .securing task }, started.effects)
  | .error e =>
    let (s, refused) := s.learn (.refused e)
    (s, started.effects ++ refused)

/-- Look at the running handshake. -/
def look (s : Session) (task : HandshakeTask) (now : Instant) (ended : Option TaskResult)
    (timerFirst : Bool) : Session × List Effect :=
  match s.connection.poll task now ended timerFirst with
  | none => (s, [])
  | some o =>
    let (s, refused) := { s with connection := o.connection }.learn (.resolved .callback o.result)
    (s, o.effects ++ refused)

/-- Something happens to the stream that is echoed. -/
def relay (s : Session) (stream : StreamId) (echo : Echo) (event : Echo.Event) :
    Session × List Effect :=
  match echo.step event with
  | .ended => ({ s with standing := .leaving }, [])
  | .readFailed fault =>
    ({ s with standing := .leaving }, [.log (.echoReadFailed s.connection.handle fault)])
  | .writeFailed fault =>
    ({ s with standing := .leaving }, [.log (.echoWriteFailed s.connection.handle fault)])
  | echo => ({ s with standing := .echoing stream echo }, [])

/-- The shutdown is over. -/
def part (s : Session) (pending : Option StreamId) (farewell : Except Fault Unit) :
    Session × List Effect :=
  let (connection, effects) := s.connection.endShutdown pending farewell
  ({ s with connection, standing := .closed }, effects)

/-- Shut the connection down. Only a secured stream makes that wait. -/
def leave (s : Session) (lateEnded : Bool) : Session × List Effect :=
  let (pending, connection, effects) := s.connection.beginShutdown lateEnded
  let s := { s with connection }
  match pending with
  | some stream => ({ s with standing := .parting stream }, effects)
  | none =>
    let (s, rest) := s.part none (.ok ())
    (s, effects ++ rest)

end Session

end BoundedTls.Program
