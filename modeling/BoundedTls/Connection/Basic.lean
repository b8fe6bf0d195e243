import BoundedTls.Connection.Channel
import BoundedTls.Connection.Handle
import BoundedTls.Log.Event
import BoundedTls.Time.Timer

/-!
# Connections

A connection takes a stream, secures it by a handshake against a deadline, and reports exactly
one outcome. Every operation is a function from a connection to a connection, a result and the
effects it has on the world around it, in order.
-/

namespace BoundedTls

open BoundedTls.Time

/-! ## Handlers -/

/-- Somebody who supplies the TLS context of a connection. -/
structure TlsProvider where
  supply : Handle → Option Tls.Context
  /-- The owner keeps a record of the calls. -/
  observed : Bool

/-- Somebody who prepares the raw stream just before the handshake. -/
structure StreamPreparer where
  /-- Lets small packets be sent at once. -/
  setsNodelay : Bool
  /-- The owner keeps a record of the calls. -/
  observed : Bool
deriving DecidableEq, Repr

/-- What a preparer logs, once the host has answered to the option that it sets. A refusal does not
stop the handshake. -/
def StreamPreparer.complaints (p : StreamPreparer) (handle : Handle) (answer : Except Fault Unit) :
    List Log.Event :=
  match p.setsNodelay, answer with
  | true, .error fault => [.nodelayFailed handle fault]
  | _, _ => []

/-! ## Effects -/

/-- What an operation does to the world around a connection. -/
inductive Effect where
  | log (event : Log.Event)
  /-- The provider was asked for a context. -/
  | asked (handle : Handle) (observed : Bool)
  /-- The preparer was given the raw stream. -/
  | prepared (handle : Handle) (stream : StreamId) (preparer : StreamPreparer)
  /-- The deadline was set. -/
  | armed (deadline : Instant)
  /-- A handshake task was started. -/
  | spawned (task : HandshakeTask)
  /-- A handshake task was dropped; if it still runs it ends, and its stream is closed. -/
  | aborted (task : HandshakeTask)
  /-- The peer was told that no more data comes. -/
  | notified (stream : StreamId)
  | closed (stream : StreamId)
deriving DecidableEq, Repr

/-! ## The connection -/

/-- The runtime that a connection is bound to: its tasks run there, and its timer has that clock. -/
structure Runtime where
  index : Nat
deriving DecidableEq, Repr

/-- The runtime on which clients are accepted and peers are dialled. -/
def Runtime.current : Runtime :=
  ⟨0⟩

/-- The deadline of a handshake unless another is set. -/
def defaultTimeout : Duration :=
  Duration.ofMillis 5000

/-- A connection. -/
structure Connection where
  handle : Handle
  role : Option Role := none
  runtime : Option Runtime := none
  channel : Option Channel := none
  timer : Option Timer := none
  timeout : Duration := defaultTimeout
  phase : Phase := .idle
  /-- A handshake that was left running when its deadline passed. -/
  abandoned : Option HandshakeTask := none
  preparer : Option StreamPreparer := none
  provider : Option TlsProvider := none

namespace Connection

/-- A connection without a stream. -/
def new (handle : Handle) : Connection :=
  { handle }

/-- Give the connection another identity. -/
def setHandle (c : Connection) (handle : Handle) : Connection :=
  { c with handle }

/-- Set the deadline of the next handshake. -/
def setTimeout (c : Connection) (timeout : Duration) : Connection :=
  { c with timeout }

/-- Name the one who prepares the raw stream. -/
def setPreparer (c : Connection) (preparer : StreamPreparer) : Connection :=
  { c with preparer := some preparer }

/-- Name the one who supplies the TLS context. -/
def setProvider (c : Connection) (provider : TlsProvider) : Connection :=
  { c with provider := some provider }

/-- The state of the deadline timer. -/
def timerState (c : Connection) : Option TimerState :=
  c.timer.map Timer.state

/-- The TLS context that the connection was given. -/
def context (c : Connection) : Option Tls.Context :=
  c.channel.map Channel.context

/-- The raw stream, for setting socket options. -/
def rawStream (c : Connection) : Option StreamId :=
  c.channel.bind Channel.raw?

/-- The secured stream. -/
def securedStream (c : Connection) : Option StreamId :=
  c.channel.bind Channel.secure?

/-- An optional name, for diagnostics. -/
def describeOption (name : Option String) : String :=
  match name with
  | some name => "Some(" ++ name ++ ")"
  | none => "None"

/-- The connection with its main parts, for diagnostics. -/
def describe (c : Connection) : String :=
  "Connection \x7b handle: " ++ c.handle.describe
    ++ ", role: " ++ describeOption (c.role.map Role.name)
    ++ ", state: " ++ c.phase.name
    ++ ", timer: " ++ describeOption (c.timerState.map TimerState.name)
    ++ ", handshake_timeout: " ++ c.timeout.render ++ ", .. \x7d"

/-! ## Taking a stream -/

/-- What an operation leaves behind. -/
structure Outcome (α : Type) where
  result : Except ConnectionError α
  connection : Connection
  effects : List Effect

/-- Bind the connection to a runtime, whose clock shows `now`, and to a stream. The context comes
from the provider; on an error nothing changes and the stream is closed. -/
def initTransport (c : Connection) (now : Instant) (runtime : Runtime) (stream : StreamId)
    (role : Role) : Outcome Unit :=
  if c.phase ≠ .idle then ⟨.error (.wrongPhase c.phase), c, [.closed stream]⟩
  else
    match c.provider with
    | none => ⟨.error .noProvider, c, [.log (.noProvider c.handle), .closed stream]⟩
    | some provider =>
      let asked := Effect.asked c.handle provider.observed
      match (provider.supply c.handle).filter fun context => context.supports role with
      | none => ⟨.error .unusableContext, c, [asked, .closed stream]⟩
      | some context =>
        let ready :=
          { c with
            channel := some ⟨context, .raw stream⟩
            timer := some (Timer.new now)
            runtime := some runtime
            role := some role
            phase := .ready }
        ⟨.ok (), ready, [asked, .log (.transportReady c.handle role)]⟩

/-! ## The handshake -/

/-- Begin a handshake: the preparer sees the raw stream, the deadline is set, and a task on the
runtime takes the stream. -/
def start (c : Connection) (now : Instant) : Outcome HandshakeTask :=
  if c.phase ≠ .ready then ⟨.error (.wrongPhase c.phase), c, []⟩
  else
    match c.channel, c.timer, c.runtime, c.role with
    | some channel, some timer, some _, some role =>
      let prepared :=
        match c.preparer, channel.raw? with
        | some preparer, some stream => [Effect.prepared c.handle stream preparer]
        | _, _ => []
      let timer := timer.expiresAfter now c.timeout
      let before := prepared ++ [.armed timer.deadline]
      match channel.startHandshake role with
      | .ok (task, channel) =>
        let running :=
          { c with channel := some channel, timer := some timer, phase := .handshaking }
        ⟨.ok task, running,
          before ++ [.spawned task, .log (.handshakeStarted c.handle role c.timeout.millis64)]⟩
      | .error e =>
        ⟨.error e, { c with timer := some timer.cancel.2, phase := .failed }, before⟩
    | _, _, _, _ => ⟨.error (.wrongPhase c.phase), c, []⟩

/-- The outcome that the result of a task stands for. -/
def outcomeOf : TaskResult → Except ConnectionError Unit
  | .secured _ => .ok ()
  | .fault fault => .error (.ofHandshake fault)
  | .broken cause => .error (.transport (.custom .other cause))

/-- The task has ended in time: the timer is called off and the result decides. -/
def conclude (c : Connection) (result : TaskResult) : Outcome Unit :=
  let c : Connection := { c with timer := c.timer.map fun t => t.cancel.2 }
  match outcomeOf result with
  | .ok () =>
    let channel :=
      match result with
      | .secured stream => c.channel.map fun channel => channel.establish stream
      | _ => c.channel
    ⟨.ok (), { c with channel, phase := .established }, [.log (.handshakeComplete c.handle)]⟩
  | .error e => ⟨.error e, { c with phase := .failed }, [.log (.handshakeFailed c.handle e)]⟩

/-- The deadline has passed first: the task is left running. -/
def expire (c : Connection) (timer : Timer) (task : HandshakeTask) : Outcome Unit :=
  ⟨.error (.timeout c.timeout),
    { c with timer := some timer, phase := .timedOut, abandoned := some task },
    [.log (.handshakeTimedOut c.handle c.timeout.millis64)]⟩

/-- Look at a running handshake once: how it ended, if it has. Where the task has ended and the
deadline has passed, the one that is looked at first wins. -/
def poll (c : Connection) (task : HandshakeTask) (now : Instant) (ended : Option TaskResult)
    (timerFirst : Bool) : Option (Outcome Unit) :=
  match c.timer with
  | none => some ⟨.error (.wrongPhase c.phase), c, [.aborted task]⟩
  | some timer =>
    let expiry :=
      match timer.poll now with
      | (some .expired, timer) => some (c.expire timer task)
      | _ => none
    let completion := ended.map c.conclude
    if timerFirst then expiry <|> completion else completion <|> expiry

/-- Give up a running handshake without an outcome. -/
def giveUp (c : Connection) (task : HandshakeTask) : Connection × List Effect :=
  (c, [.aborted task])

/-! ## Shutdown -/

/-- The stream leaves the channel: a raw one is closed at once, a secured one still has to be
said farewell to. -/
def releaseStream (channel : Option Channel) : Option StreamId × List Effect :=
  match channel.map Channel.stage with
  | some (.raw stream) => (none, [.closed stream])
  | some (.secure stream) => (some stream, [.notified stream])
  | _ => (none, [])

/-- The first part of a shutdown: an abandoned handshake is dropped, the timer is called off and
the stream leaves the channel. The answer names the secured stream that is being closed. -/
def beginShutdown (c : Connection) (lateEnded : Bool) :
    Option StreamId × Connection × List Effect :=
  let dropped :=
    match c.abandoned with
    | some task => (if lateEnded then [.log (.lateResult c.handle)] else []) ++ [.aborted task]
    | none => []
  let (pending, released) := releaseStream c.channel
  let c : Connection :=
    { c with
      abandoned := none
      timer := c.timer.map fun t => t.cancel.2
      channel := c.channel.map Channel.close }
  (pending, c, dropped ++ released)

/-- The second part of a shutdown: a failed farewell is logged and forgotten. -/
def endShutdown (c : Connection) (pending : Option StreamId) (farewell : Except Fault Unit) :
    Connection × List Effect :=
  let effects :=
    match pending, farewell with
    | some stream, .ok () => [.closed stream]
    | some stream, .error fault => [.closed stream, .log (.shutdownFailed c.handle fault)]
    | none, _ => []
  ({ c with phase := .shutdown }, effects)

/-- Drop the connection: what it still owns is dropped with it. -/
def discard (c : Connection) : List Effect :=
  let task := c.abandoned.toList.map Effect.aborted
  let stream := c.rawStream.toList.map Effect.closed
  task ++ stream

end Connection

end BoundedTls
