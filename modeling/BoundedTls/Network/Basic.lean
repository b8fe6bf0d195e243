import BoundedTls.Connection.Channel
import BoundedTls.Tls.Message

/-!
# Streams

Reliable ordered streams inside one host. A stream has two ends; what is written at one end waits
in the inbox of the other until it is read. An end that is closed with an unread inbox resets the
stream, otherwise its peer reads to the end.
-/

namespace BoundedTls

/-- What is written to a stream in one piece. -/
inductive Packet where
  /-- Bytes that no engine wrote. -/
  | bytes (data : List UInt8)
  | message (message : Tls.Message)
deriving DecidableEq, Repr

/-- One end of a stream. -/
structure StreamEnd where
  peer : StreamId
  /-- What has arrived and was not read. -/
  inbox : List Packet := []
  /-- The peer writes no more. -/
  ended : Bool := false
  /-- The peer has given the stream up. -/
  reset : Bool := false
  closed : Bool := false
  /-- Small packets are sent at once. -/
  nodelay : Bool := false
  /-- Decrypted bytes that the layers above have not read. -/
  plaintext : List UInt8 := []
  /-- The peer has said that no more data comes. -/
  farewell : Bool := false
deriving DecidableEq, Repr

/-- All streams of the host. -/
structure Network where
  ends : List StreamEnd := []
deriving DecidableEq, Repr

namespace Network

/-- The end of a given name. -/
def find? (n : Network) (s : StreamId) : Option StreamEnd :=
  n.ends[s.index]?

/-- Change an end. -/
def modify (n : Network) (s : StreamId) (change : StreamEnd → StreamEnd) : Network :=
  { ends := n.ends.modify s.index change }

/-- Set whether an end sends small packets at once. There must be such an end. -/
def setNodelay (n : Network) (s : StreamId) (on : Bool) : Except Fault Unit × Network :=
  match n.find? s with
  | none => (.error (.number ErrorNumber.badDescriptor), n)
  | some _ => (.ok (), n.modify s fun e => { e with nodelay := on })

/-- A new stream: its two ends. -/
def connect (n : Network) : StreamId × StreamId × Network :=
  let a : StreamId := ⟨n.ends.length⟩
  let b : StreamId := ⟨n.ends.length + 1⟩
  (a, b, { ends := n.ends ++ [{ peer := b }, { peer := a }] })

/-- The other end of a stream is closed. -/
def peerClosed (n : Network) (e : StreamEnd) : Bool :=
  match n.find? e.peer with
  | some other => other.closed
  | none => true

/-- Write at an end; the answer tells whether that was possible. Writing to a closed peer
succeeds once and brings a reset. -/
def write (n : Network) (s : StreamId) (packet : Packet) : Bool × Network :=
  match n.find? s with
  | none => (false, n)
  | some e =>
    if e.reset || e.closed then (false, n)
    else if n.peerClosed e then (true, n.modify s fun e => { e with reset := true })
    else (true, n.modify e.peer fun other => { other with inbox := other.inbox ++ [packet] })

/-- Write no more at an end. -/
def finish (n : Network) (s : StreamId) : Network :=
  match n.find? s with
  | none => n
  | some e => n.modify e.peer fun other => { other with ended := true }

/-- Close an end. -/
def close (n : Network) (s : StreamId) : Network :=
  match n.find? s with
  | none => n
  | some e =>
    if e.closed then n
    else
      let n := n.modify s fun e => { e with closed := true, inbox := [] }
      n.modify e.peer fun other =>
        if e.inbox.isEmpty then { other with ended := true } else { other with reset := true }

/-- Read everything that has arrived at an end. -/
def drain (n : Network) (s : StreamId) : List Packet × Network :=
  match n.find? s with
  | none => ([], n)
  | some e => (e.inbox, n.modify s fun e => { e with inbox := [] })

/-- There is something to read at an end, be it the end of the stream. -/
def readable (n : Network) (s : StreamId) : Bool :=
  match n.find? s with
  | none => false
  | some e => !e.inbox.isEmpty || e.ended || e.reset

/-! ## Secured streams -/

/-- Take arrived messages into the secured stream. -/
def absorb (e : StreamEnd) (packets : List Packet) : StreamEnd :=
  packets.foldl (fun e packet =>
    match packet with
    | .message (.data bytes) => { e with plaintext := e.plaintext ++ bytes }
    | .message .closeNotify => { e with farewell := true }
    | _ => e) e

/-- What reading a secured stream can find. -/
inductive Arrival where
  | bytes (data : List UInt8)
  /-- The peer has said that no more data comes. -/
  | farewell
  /-- The stream has ended without a word, or was reset. -/
  | lost (fault : Fault)
  | pending
deriving DecidableEq, Repr

/-- Read at most `limit` bytes from a secured stream. -/
def receive (n : Network) (s : StreamId) (limit : Nat) : Arrival × Network :=
  let n := n.modify s fun e =>
    if e.plaintext.isEmpty then { absorb e e.inbox with inbox := [] } else e
  match n.find? s with
  | none => (.lost .missingFarewell, n)
  | some e =>
    if !e.plaintext.isEmpty then
      (.bytes (e.plaintext.take limit),
        n.modify s fun e => { e with plaintext := e.plaintext.drop limit })
    else if e.farewell then (.farewell, n)
    else if e.reset then (.lost (.number ErrorNumber.connectionReset), n)
    else if e.ended then (.lost .missingFarewell, n)
    else (.pending, n)

end Network

end BoundedTls
