import BoundedTls.Network.Basic

/-!
# Exchanges

A message is written whole, however little of it the stream takes at a time, and as many bytes are
read back, however few of them arrive at a time.
-/

namespace BoundedTls

/-- What is left to write of some bytes once the stream has taken `n` of them. A stream that takes
none takes no more. -/
def restOf (bytes : List UInt8) (n : Nat) : Except Fault (List UInt8) :=
  if n = 0 then .error (.plain .writeZero) else .ok (bytes.drop n)

/-- How far an exchange has come. -/
inductive Exchange where
  /-- These bytes are still to be written, and `count` are wanted back. -/
  | sending (rest : List UInt8) (count : Nat)
  /-- Everything is written, and has to be handed to the stream. -/
  | flushing (count : Nat)
  /-- These bytes have come back, and so many more are wanted. -/
  | receiving (sofar : List UInt8) (missing : Nat)
  | complete (reply : List UInt8)
  | failed (fault : Fault)
deriving DecidableEq, Repr

namespace Exchange

/-- What can happen to the stream of an exchange. -/
inductive Event where
  /-- The stream has taken the next `n` bytes. -/
  | took (n : Nat)
  | flushed
  /-- The stream does not take what is written. -/
  | refused (fault : Fault)
  | found (arrival : Network.Arrival)
deriving DecidableEq, Repr

def send (rest : List UInt8) (count : Nat) : Exchange :=
  if rest = [] then .flushing count else .sending rest count

def receive (sofar : List UInt8) (missing : Nat) : Exchange :=
  if missing = 0 then .complete sofar else .receiving sofar missing

/-- The exchange of a message for as many bytes. -/
def start (message : List UInt8) : Exchange :=
  send message message.length

/-- Reading has found this. What was read is lost if the rest does not come. -/
def hear (sofar : List UInt8) (missing : Nat) : Network.Arrival → Exchange
  | .bytes [] | .farewell => .failed .earlyEnd
  | .bytes data => receive (sofar ++ data) (missing - data.length)
  | .lost fault => .failed fault
  | .pending => .receiving sofar missing

def step (e : Exchange) (event : Event) : Exchange :=
  match e, event with
  | .sending rest count, .took n =>
    match restOf rest n with
    | .ok rest => send rest count
    | .error fault => .failed fault
  | .sending _ _, .refused fault | .flushing _, .refused fault => .failed fault
  | .flushing count, .flushed => receive [] count
  | .receiving sofar missing, .found arrival => hear sofar missing arrival
  | e, _ => e

end Exchange

end BoundedTls
