import BoundedTls.Program.Host

/-!
# Clients

A client dials a server, secures the connection, sends a message and waits until as many bytes
have come back.
-/

namespace BoundedTls.Program

open BoundedTls.Address

/-- The name of the connection of a client. One client runs at a time. -/
def clientName : String :=
  "client"

namespace Host

/-- The client drops its connection, which the servers notice. -/
def leave (h : Host) : Host :=
  { h with world := h.world.dropConnection clientName }.settle

/-- Dial an address and secure the connection. On an error nothing is left of the connection. -/
def secureTo (h : Host) (p : Process) (e : Endpoint) (address : SocketAddress) :
    Except Failure Connection × Process × Host :=
  let (made, p, h) := h.within p fun w => w.dialWith (w.listenerAt? address) e
  match made with
  | .error error => (.error (.listener error), p, h.settle)
  | .ok c =>
    let begun := c.start h.world.now
    let (_, p, h) := h.within p fun w =>
      ((), (w.performAll begun.effects).putConnection clientName begun.connection)
    match begun.result with
    | .error error => (.error (.connection error), p, h.leave)
    | .ok task =>
      let (report, p, h) := h.settle.within p fun w =>
        w.awaitHandshake clientName .returned none begun.connection task
      let c := (h.world.connections.get? clientName).getD begun.connection
      match report.errors with
      | [] => (.ok c, p, h.settle)
      | error :: _ => (.error (.connection error), p, h.leave)

/-- What waiting for a reply ends with. -/
inductive Reply where
  | complete (bytes : List UInt8)
  | failed (fault : Fault)
  /-- The rest of the reply never comes. -/
  | awaited
deriving DecidableEq, Repr

/-- Send a message through a secured connection and read as many bytes. Without a stream nothing
is sent and nothing is read. -/
def exchange (h : Host) (c : Connection) (message : List UInt8) : Reply × Host :=
  match c.securedStream with
  | none => (.complete [], h)
  | some stream =>
    let bound := message.length + 2
    let (e, world) := World.exchange stream bound (.start message) h.world
    let h := { h with world }.settle
    match World.awaitExchange stream bound e h.world with
    | (.complete reply, world) => (.complete reply, { h with world })
    | (.failed fault, world) => (.failed fault, { h with world })
    | (_, world) => (.awaited, { h with world })

/-- The client says farewell and drops its connection. -/
def farewell (h : Host) (p : Process) (c : Connection) : Process × Host :=
  let (_, p, h) := h.within p fun w => ((), World.shutdown w clientName c)
  (p, h.settle.leave)

end Host

end BoundedTls.Program
