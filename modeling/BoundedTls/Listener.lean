import BoundedTls.Endpoint
import BoundedTls.Fault.Number

/-!
# Listeners

A listener hands out connections of the server role, at most a fixed number at a time. Each
accepted connection comes with a permit that holds one of the slots; giving the permit back frees
the slot.
-/

namespace BoundedTls

open BoundedTls.Address BoundedTls.Time

/-- The most slots that a listener can have. -/
def maxPermits : Nat := 2305843009213693951

/-- What is said when more slots are asked for. -/
def tooManyPermits : String :=
  "a semaphore may not have more than MAX_PERMITS permits (" ++ Text.numeral maxPermits ++ ")"

/-- A client that waits to be accepted. -/
structure Waiting where
  stream : StreamId
  peer : SocketAddress
deriving DecidableEq, Repr

/-- A listener. -/
structure Listener where
  id : Nat
  address : SocketAddress
  endpoint : Endpoint
  maxConnections : UInt64
  /-- The slots that are free. -/
  available : Nat
  /-- The clients that wait, in the order of their arrival. -/
  backlog : List Waiting := []

/-- A slot of a listener. -/
structure Permit where
  listener : Nat
deriving DecidableEq, Repr

/-- What binding a listener ends with. -/
inductive Bound where
  | listening (listener : Listener) (effects : List Effect)
  | failed (error : ListenerError)
  /-- The program cannot go on: the address was bound, but there is no room for the slots. -/
  | crashed (effects : List Effect)

namespace Listener

/-- Bind a listener to the address of its settings. The host is asked for that address, and answers
with the address that it has bound, or with a fault. -/
def bind (id : Nat) (host : SocketAddress → Except Fault SocketAddress)
    (settings : Config.ListenerSettings) (endpoint : Endpoint) : Bound :=
  match SocketAddress.parse? settings.bindAddress with
  | none => .failed (.bind .badAddress)
  | some wanted =>
    match host wanted with
    | .error fault => .failed (.bind fault)
    | .ok address =>
      let max := settings.maxConnections
      let effects := [Effect.log (.bound address max endpoint.timeout.millis64)]
      if maxPermits < max.toNat then .crashed effects
      else .listening ⟨id, address, endpoint, max, max.toNat, []⟩ effects

/-- A client arrives. -/
def arrive (l : Listener) (w : Waiting) : Listener :=
  { l with backlog := l.backlog ++ [w] }

/-- A permit comes back. -/
def release (l : Listener) (p : Permit) : Listener :=
  if p.listener = l.id then { l with available := l.available + 1 } else l

/-- What an attempt to accept ends with. -/
inductive Accepted where
  /-- No slot is free, or no client waits. -/
  | blocked
  | connection (c : Connection) (peer : SocketAddress) (permit : Permit)
  | failed (error : ListenerError)

/-- Take a slot, if one is free. -/
def grant (l : Listener) : Option (Permit × Listener) :=
  match l.available with
  | 0 => none
  | free + 1 => some (⟨l.id⟩, { l with available := free })

/-- Make a client a connection that holds a slot. The slot is given back if the stream cannot be
made a connection. -/
def welcome (l : Listener) (now : Instant) (handle : Handle) (permit : Permit) (w : Waiting) :
    Accepted × Listener × List Effect :=
  let (c, stamped) := l.endpoint.connection handle
  let bound := c.initTransport now .current w.stream .server
  let effects := stamped ++ bound.effects
  match bound.result with
  | .ok () =>
    let free := UInt64.ofNat l.available
    (.connection bound.connection w.peer permit, l,
      effects ++ [.log (.accepted w.peer bound.connection.handle free)])
  | .error e => (.failed (.transport e), l.release permit, effects)

/-- With a slot in hand, take the client that has waited longest. -/
def receive (l : Listener) (now : Instant) (handle : Handle) (permit : Permit) :
    Accepted × Listener × List Effect :=
  match l.backlog with
  | [] => (.blocked, l, [])
  | w :: backlog => { l with backlog }.welcome now handle permit w

/-- With a slot in hand, learn that no client can be taken: the slot is given back. -/
def refuse (l : Listener) (permit : Permit) (fault : Fault) : Accepted × Listener × List Effect :=
  (.failed (.accept fault), l.release permit, [])

/-- Accept the client that has waited longest, if a slot is free. Who finds no client waits no
longer and gives the slot back. -/
def accept (l : Listener) (now : Instant) (handle : Handle) :
    Accepted × Listener × List Effect :=
  match l.grant with
  | none => (.blocked, l, [])
  | some (permit, granted) =>
    match granted.receive now handle permit with
    | (.blocked, l, effects) => (.blocked, l.release permit, effects)
    | answer => answer

end Listener

/-- Make a dialled stream a connection of the client role. -/
def Endpoint.dialled (e : Endpoint) (now : Instant) (handle : Handle) (stream : StreamId)
    (address : SocketAddress) : Except ListenerError Connection × List Effect :=
  let (c, stamped) := e.connection handle
  let bound := c.initTransport now .current stream .client
  let effects := stamped ++ bound.effects
  match bound.result with
  | .ok () =>
    (.ok bound.connection, effects ++ [.log (.connected address bound.connection.handle)])
  | .error e => (.error (.transport e), effects)

/-- Dialling an address at which nobody listens. -/
def nobodyListens : ListenerError :=
  .connect (.number ErrorNumber.connectionRefused)

end BoundedTls
