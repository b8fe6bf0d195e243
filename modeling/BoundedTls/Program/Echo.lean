import BoundedTls.World.Attempt

/-!
# Echoing

Whatever is read from a secured stream is sent back. What was read in one piece is sent back whole
before the next piece is read; the end of the stream or the first fault ends it.
-/

namespace BoundedTls.Program

/-- The most bytes that are read before they are sent back. -/
def chunkLimit : Nat :=
  4096

/-- How far echoing has come. -/
inductive Echo where
  | reading
  /-- These bytes were read and are still to be sent back. -/
  | writing (rest : List UInt8)
  /-- The client sends no more. -/
  | ended
  | readFailed (fault : Fault)
  | writeFailed (fault : Fault)
deriving DecidableEq, Repr

namespace Echo

/-- What can happen to the stream of an echo. -/
inductive Event where
  | found (arrival : Network.Arrival)
  /-- The stream has taken the next `n` bytes. -/
  | took (n : Nat)
  /-- The stream does not take what is written. -/
  | refused (fault : Fault)
deriving DecidableEq, Repr

def hear : Network.Arrival → Echo
  | .bytes [] | .farewell => .ended
  | .bytes data => .writing data
  | .lost fault => .readFailed fault
  | .pending => .reading

def step (e : Echo) (event : Event) : Echo :=
  match e, event with
  | .reading, .found arrival => hear arrival
  | .writing rest, .took n =>
    match restOf rest n with
    | .ok [] => .reading
    | .ok rest => .writing rest
    | .error fault => .writeFailed fault
  | .writing _, .refused fault => .writeFailed fault
  | e, _ => e

/-- What happens next to the stream of an echo in the world; nothing as long as it waits. -/
def next (stream : StreamId) (e : Echo) (w : World) : Option Event × World :=
  match e with
  | .reading =>
    match w.network.receive stream chunkLimit with
    | (.pending, network) => (none, { w with network })
    | (arrival, network) => (some (.found arrival), { w with network })
  | .writing rest =>
    match World.send w stream rest with
    | (true, w) => (some (.took rest.length), w)
    | (false, w) => (some (.refused (.number ErrorNumber.brokenPipe)), w)
  | .ended | .readFailed _ | .writeFailed _ => (none, w)

end Echo

end BoundedTls.Program
