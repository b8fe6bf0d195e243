import BoundedTls.Program.Process
import BoundedTls.Program.Session
import BoundedTls.World.Listening

/-!
# The echo server

The server accepts clients, secures their connections, and sends back whatever they send. What goes
wrong with one client ends neither the server nor another client.
-/

namespace BoundedTls.Program

open BoundedTls.Address

namespace Session

/-! ## Sessions in the world -/

/-- Look at the running handshake now, the task first. -/
def lookIn (s : Session) (w : World) (task : HandshakeTask) : Session × World :=
  let ended := w.resultOf task
  let (s, effects) := s.look task w.now ended false
  let w := if ended.isSome then w.forgetTask task else w
  (s, w.performAll effects)

/-- Begin the handshake and let it come to its end. -/
def secure (s : Session) (w : World) : Session × World :=
  let (s, effects) := s.begin w.now
  let w := w.performAll effects
  match s.standing with
  | .securing task =>
    let (s, w) := s.lookIn (w.runUntil fun tasks => tasks.any (·.isEndOf task)) task
    match s.standing with
    | .securing task => s.lookIn { w with now := max w.now (w.wakeOf s.connection) } task
    | _ => (s, w)
  | _ => (s, w)

/-- Echo what has arrived, in at most `bound` steps. -/
def echo : Nat → Session → World → Session × World
  | 0, s, w => (s, w)
  | bound + 1, s, w =>
    match s.standing with
    | .echoing stream going =>
      match going.next stream w with
      | (some event, w) =>
        let (s, effects) := s.relay stream going event
        echo bound s (w.performAll effects)
      | (none, w) => (s, w)
    | _ => (s, w)

/-- The number of steps in which everything that has arrived is echoed. -/
def echoBound (s : Session) (w : World) : Nat :=
  match s.standing with
  | .echoing stream _ => 2 * w.waitingBytes stream + 1
  | _ => 0

/-- Shut the connection down, farewell included. -/
def close (s : Session) (w : World) : Session × World :=
  let (s, effects) := s.leave (s.connection.abandoned.bind w.resultOf).isSome
  let w := w.performAll effects
  match s.standing with
  | .parting stream =>
    let (farewell, w) := w.sayFarewell stream
    let (s, effects) := s.part (some stream) farewell
    (s, w.performAll effects)
  | _ => (s, w)

/-- Serve the client as far as possible. -/
def proceed (s : Session) (w : World) : Session × World :=
  let (s, w) := if s.standing = .accepted then s.secure w else (s, w)
  let (s, w) := echo (s.echoBound w) s w
  if s.standing = .leaving then s.close w else (s, w)

end Session

/-- A server. -/
structure Server where
  /-- The name of the listener. -/
  name : String
  process : Process
  sessions : List Session := []

namespace Server

/-- The server does something in the world. -/
def within {α : Type} (s : Server) (w : World) (go : World → α × World) : α × Server × World :=
  let (a, process, w) := s.process.within w go
  (a, { s with process }, w)

/-- The server writes events to its log. -/
def log (s : Server) (events : List Log.Event) : Server :=
  { s with process := s.process.logAll events }

/-- Serve a client as far as possible. Once the connection is shut down its slot is free again. -/
def attend (s : Server) (w : World) (session : Session) : Server × World :=
  let (session, s, w) := s.within w session.proceed
  match session.standing, session.permit with
  | .closed, some permit => (s, w.takeBack permit)
  | _, _ => ({ s with sessions := s.sessions ++ [session] }, w)

/-- Serve all clients as far as possible. -/
def attendAll (s : Server) (w : World) : Server × World :=
  s.sessions.foldl (fun (s, w) session => s.attend w session) ({ s with sessions := [] }, w)

/-- Take the next client in, if one waits and a slot is free. -/
def takeIn (s : Server) (w : World) : Server × World :=
  match w.listeners.get? s.name with
  | none => (s, w)
  | some l =>
    let (accepted, s, w) := s.within w fun w => w.acceptAt s.name l
    match accepted with
    | .blocked => (s, w)
    | .failed e => (s.log [.acceptFailed e], w)
    | .connection connection peer permit =>
      s.attend w { connection, peer, permit := some permit }

/-- Take in the clients that wait, at most `bound`. -/
def takeInAll : Nat → Server → World → Server × World
  | 0, s, w => (s, w)
  | bound + 1, s, w =>
    let (s, w) := s.takeIn w
    takeInAll bound s w

/-- The number of clients that wait. -/
def waiting (s : Server) (w : World) : Nat :=
  ((w.listeners.get? s.name).map fun l => l.backlog.length).getD 0

/-- Serve the clients, take new ones in, and serve those. -/
def tend (s : Server) (w : World) : Server × World :=
  let (s, w) := s.attendAll w
  let (s, w) := takeInAll (s.waiting w) s w
  s.attendAll w

/-- The server is interrupted: it accepts no more clients and ends, and its connections with it. -/
def interrupt (s : Server) (w : World) : Exit × World :=
  let s := s.log [.interrupted, .finished]
  let w := s.sessions.foldl (fun w session => w.performAll session.connection.discard) w
  (s.process.exit .success, w.dropListener s.name)

end Server

end BoundedTls.Program
