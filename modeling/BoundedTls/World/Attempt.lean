import BoundedTls.Network.Exchange
import BoundedTls.World.Basic

/-!
# Handshakes in the world

A handshake of a connection runs together with everything else until its task ends, its deadline
passes, or its owner loses patience.
-/

namespace BoundedTls

open BoundedTls.Time

/-- How the owner of a connection learns about the outcome of a handshake. -/
inductive Delivery where
  /-- By a callback; the call itself reports only that the handshake could begin. -/
  | callback
  /-- The call returns the outcome. -/
  | returned
deriving DecidableEq, Repr

/-- What the owner of a connection learns. -/
structure Report where
  /-- What the call returned; nothing if the owner gave up first. -/
  returned : Option (Except ConnectionError Unit)
  /-- What the callback was called with, in order. -/
  callbacks : List (Except ConnectionError Unit)

/-- The report about a handshake that could not begin. -/
def Report.refused (e : ConnectionError) : Report :=
  ⟨some (.error e), []⟩

/-- The report about a handshake with an outcome. -/
def Report.resolved (delivery : Delivery) (outcome : Except ConnectionError Unit) : Report :=
  match delivery with
  | .callback => ⟨some (.ok ()), [outcome]⟩
  | .returned => ⟨some outcome, []⟩

/-- The errors that were returned or handed to the callback. -/
def Report.errors (r : Report) : List ConnectionError :=
  (r.callbacks ++ r.returned.toList).filterMap fun outcome =>
    match outcome with
    | .ok () => none
    | .error e => some e

/-- The report about a handshake that its owner gave up. -/
def Report.cancelled : Report :=
  ⟨none, []⟩

namespace World

/-- Begin the handshake of a connection. -/
def beginHandshake (w : World) (name : String) (c : Connection) :
    Except ConnectionError HandshakeTask × World :=
  let started := c.start w.now
  (started.result, (w.performAll started.effects).putConnection name started.connection)

/-- The outcome of a handshake reaches the connection. -/
def resolve (w : World) (name : String) (delivery : Delivery) (outcome : Connection.Outcome Unit) :
    Report × World :=
  (.resolved delivery outcome.result,
    (w.performAll outcome.effects).putConnection name outcome.connection)

/-- Look at a running handshake now, the task first. -/
def pollHandshake (w : World) (name : String) (delivery : Delivery) (c : Connection)
    (task : HandshakeTask) : Option (Report × World) :=
  let ended := w.resultOf task
  (c.poll task w.now ended false).map fun outcome =>
    (if ended.isSome then w.forgetTask task else w).resolve name delivery outcome

/-- The instant at which the deadline of a running handshake fires. -/
def wakeOf (w : World) (c : Connection) : Instant :=
  match c.timer with
  | some timer => timer.wakeAt w.now
  | none => w.now

/-- The owner of a running handshake gives it up. -/
def cancelHandshake (w : World) (name : String) (c : Connection) (task : HandshakeTask) :
    Report × World :=
  let (c, effects) := c.giveUp task
  (.cancelled, (w.performAll effects).putConnection name c)

/-- Let a running handshake come to its end. Everything else has run before its deadline is looked
at, even a deadline that leaves no time. -/
def awaitHandshake (w : World) (name : String) (delivery : Delivery)
    (patience : Option Duration) (c : Connection) (task : HandshakeTask) : Report × World :=
  let limit := patience.map fun d => roundUp (deadlineAfter w.now d)
  let late (w : World) : Bool := limit.any (· ≤ w.now)
  let settled (w : World) (go : World → Report × World) : Report × World :=
    match w.pollHandshake name delivery c task with
    | some answer => answer
    | none => if late w then w.cancelHandshake name c task else go w
  let afterwards (w : World) : Report × World :=
    settled w fun w =>
      let wake := w.wakeOf c
      let next := match limit with
        | some limit => min wake limit
        | none => wake
      settled { w with now := max w.now next } fun w => w.cancelHandshake name c task
  afterwards (w.runUntil fun tasks => tasks.any (·.isEndOf task))

/-- Run the handshake of a connection. -/
def handshake (w : World) (name : String) (delivery : Delivery)
    (patience : Option Duration) (c : Connection) : Report × World :=
  match w.beginHandshake name c with
  | (.error e, w) => (.refused e, w)
  | (.ok task, w) =>
    match w.connections.get? name with
    | some c => w.awaitHandshake name delivery patience c task
    | none => (.cancelled, w)

/-- Run the handshakes of two connections together. -/
def handshakeBoth (w : World) (a b : String) (delivery : Delivery) (ca cb : Connection) :
    Report × Report × World :=
  let (begunA, w) := w.beginHandshake a ca
  let (begunB, w) := w.beginHandshake b cb
  let mine := [begunA, begunB].filterMap fun begun => begun.toOption
  let w := w.runUntil fun tasks => mine.all fun task => tasks.any (·.isEndOf task)
  let finish (w : World) (name : String) (begun : Except ConnectionError HandshakeTask) :
      Report × World :=
    match begun, w.connections.get? name with
    | .ok task, some c =>
      match w.pollHandshake name delivery c task with
      | some answer => answer
      | none =>
        let late := { w with now := max w.now (w.wakeOf c) }
        (late.pollHandshake name delivery c task).getD (.cancelled, late)
    | .error e, _ => (.refused e, w)
    | .ok _, none => (.cancelled, w)
  let (reportA, w) := finish w a begunA
  let (reportB, w) := finish w b begunB
  (reportA, reportB, w)

/-! ## Shutdown -/

/-- Say farewell to the peer of a secured stream. -/
def sayFarewell (w : World) (stream : StreamId) : Except Fault Unit × World :=
  match w.network.write stream (.message .closeNotify) with
  | (true, network) => (.ok (), { w with network := network.finish stream })
  | (false, network) => (.error (.number ErrorNumber.brokenPipe), { w with network })

/-- Shut a connection down, farewell included. -/
def shutdown (w : World) (name : String) (c : Connection) : World :=
  let lateEnded := (c.abandoned.bind w.resultOf).isSome
  let (pending, c, effects) := c.beginShutdown lateEnded
  let w := w.performAll effects
  let (farewell, w) : Except Fault Unit × World :=
    match pending with
    | none => (.ok (), w)
    | some stream => w.sayFarewell stream
  let (c, effects) := c.endShutdown pending farewell
  (w.performAll effects).putConnection name c

/-! ## Data -/

/-- Write to a secured stream; an empty text writes nothing. -/
def send (w : World) (stream : StreamId) (data : List UInt8) : Bool × World :=
  if data.isEmpty then (true, w)
  else
    let (done, network) := w.network.write stream (.message (.data data))
    (done, { w with network })

/-- What reading from a secured stream ends with. -/
inductive Received where
  | data (bytes : List UInt8)
  | pending
  | lost (fault : Fault)
deriving DecidableEq, Repr

/-- How long a reader waits for data. -/
def readerPatience : Duration :=
  Duration.ofMillis 25

/-- What happens next to the stream of an exchange; nothing as long as it waits. -/
def nextIn (stream : StreamId) (e : Exchange) (w : World) : Option Exchange.Event × World :=
  match e with
  | .sending rest _ =>
    match w.send stream rest with
    | (true, w) => (some (.took rest.length), w)
    | (false, w) => (some (.refused (.number ErrorNumber.brokenPipe)), w)
  | .flushing _ => (some .flushed, w)
  | .receiving _ missing =>
    match w.network.receive stream missing with
    | (.pending, network) => (none, { w with network })
    | (arrival, network) => (some (.found arrival), { w with network })
  | .complete _ | .failed _ => (none, w)

/-- Come as far with an exchange as possible, in at most `bound` steps. -/
def exchange (stream : StreamId) : Nat → Exchange → World → Exchange × World
  | 0, e, w => (e, w)
  | bound + 1, e, w =>
    match nextIn stream e w with
    | (some event, w) => exchange stream bound (e.step event) w
    | (none, w) => (e, w)

/-- Come as far with an exchange as possible, and wait for more once. -/
def awaitExchange (stream : StreamId) (bound : Nat) (e : Exchange) (w : World) :
    Exchange × World :=
  match exchange stream bound e w with
  | (.receiving sofar missing, w) =>
    exchange stream bound (.receiving sofar missing) (w.pass readerPatience)
  | answer => answer

/-- Read exactly `count` bytes. -/
def receiveExactly (stream : StreamId) (count : Nat) (w : World) : Received × World :=
  match awaitExchange stream (count + 1) (.receive [] count) w with
  | (.complete bytes, w) => (.data bytes, w)
  | (.failed fault, w) => (.lost fault, w)
  | (_, w) => (.pending, w)

/-- Read to the end of the data, in at most `bound` steps. -/
def receiveAll (stream : StreamId) :
    Nat → Bool → List UInt8 → World → Received × World
  | 0, _, _, w => (.pending, w)
  | bound + 1, waited, sofar, w =>
    match w.network.receive stream 4096 with
    | (.bytes data, network) => receiveAll stream bound waited (sofar ++ data) { w with network }
    | (.farewell, network) => (.data sofar, { w with network })
    | (.lost fault, network) => (.lost fault, { w with network })
    | (.pending, network) =>
      let w := { w with network }
      if waited then (.pending, w)
      else receiveAll stream bound true sofar (w.pass readerPatience)

/-- The bytes that wait for the reader of a stream. -/
def waitingBytes (w : World) (stream : StreamId) : Nat :=
  match w.network.find? stream with
  | none => 0
  | some e => (Network.absorb e e.inbox).plaintext.length

end World

end BoundedTls
