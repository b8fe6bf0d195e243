import BoundedTls.Time.Duration

/-!
# The deadline timer

A one-shot deadline on a clock that counts nanoseconds. It separates the two ways a deadline can
end: it ran out (`expired`) or it was called off (`aborted`). Deadlines fire on whole
milliseconds: a wait completes at the first whole millisecond not before the deadline.

`Bench` is a timer together with its clock, and `Bench.step` one operation on the pair, so a
history of operations is a list of `Action`s.
-/

namespace BoundedTls.Time

/-- A reading of the clock in nanoseconds. -/
abbrev Instant := Nat

/-- The last instant that the clock can hold. -/
def clockEnd : Instant :=
  9223372036854775807 * nanosPerSecond + 999999999

/-- The stand-in for a timeout that ends after the last instant: thirty years. -/
def farFuture : Duration :=
  Duration.ofSeconds 946080000

/-- The instant `d` after `now`, if the clock can hold it. -/
def later? (now : Instant) (d : Duration) : Option Instant :=
  if now + d.total ≤ clockEnd then some (now + d.total) else none

/-- The deadline of a timeout that starts now: thirty years from now if the clock cannot hold the
instant that was asked for. -/
def deadlineAfter (now : Instant) (d : Duration) : Instant :=
  (later? now d).getD (now + farFuture.total)

/-- The first whole millisecond not before an instant. -/
def roundUp (t : Instant) : Instant :=
  (t + (nanosPerMilli - 1)) / nanosPerMilli * nanosPerMilli

/-- The lifecycle of a deadline timer. -/
inductive TimerState where
  /-- Created, never armed. -/
  | idle
  /-- Counting down. -/
  | armed
  /-- Ran to its deadline. -/
  | expired
  /-- Cancelled before its deadline. -/
  | cancelled
deriving DecidableEq, Repr

/-- The name of a timer state. -/
def TimerState.name : TimerState → String
  | idle => "Idle"
  | armed => "Armed"
  | expired => "Expired"
  | cancelled => "Cancelled"

/-- What a wait on the timer observed. -/
inductive TimerEvent where
  | expired
  | aborted
deriving DecidableEq, Repr

/-- The name of an observation. -/
def TimerEvent.name : TimerEvent → String
  | expired => "Expired"
  | aborted => "Aborted"

/-- A one-shot deadline. -/
structure Timer where
  deadline : Instant
  state : TimerState
deriving DecidableEq, Repr

namespace Timer

/-- An unarmed timer; its deadline is the instant it was made. -/
def new (now : Instant) : Timer :=
  ⟨now, .idle⟩

/-- Arm the timer, or arm it again, to fire `d` from now. -/
def expiresAfter (_t : Timer) (now : Instant) (d : Duration) : Timer :=
  ⟨deadlineAfter now d, .armed⟩

/-- Call off an armed timer. The answer is false if there was nothing to call off. -/
def cancel (t : Timer) : Bool × Timer :=
  if t.state = .armed then (true, { t with state := .cancelled }) else (false, t)

/-- The instant at which a wait that starts at `now` completes. -/
def wakeAt (t : Timer) (now : Instant) : Instant :=
  match t.state with
  | .cancelled | .expired => now
  | .idle | .armed => max now (roundUp t.deadline)

/-- Look at the timer once at the instant `now`: nothing, or what a wait observes. -/
def poll (t : Timer) (now : Instant) : Option TimerEvent × Timer :=
  match t.state with
  | .cancelled => (some .aborted, t)
  | .expired => (some .expired, t)
  | .idle | .armed =>
    if roundUp t.deadline ≤ now then (some .expired, { t with state := .expired }) else (none, t)

end Timer

/-! ## Histories -/

/-- One operation on a timer or on its clock. -/
inductive Timer.Action where
  /-- Replace the timer by a new one. -/
  | renew
  | expiresAfter (d : Duration)
  | cancel
  /-- Time passes. -/
  | advance (d : Duration)
  /-- Wait to the end. -/
  | wait
  /-- Wait, and give up after the limit. -/
  | waitAtMost (limit : Duration)
  /-- Look once. -/
  | poll
deriving Repr

/-- The answer of an operation. -/
inductive Timer.Answer where
  | done
  | cancelled (was : Bool)
  | observed (event : TimerEvent)
  | gaveUp
  | pending
deriving DecidableEq, Repr

/-- A timer and the clock it runs on. -/
structure Timer.Bench where
  now : Instant
  timer : Timer
deriving DecidableEq, Repr

namespace Timer.Bench

/-- A new timer on a clock that starts at zero. -/
def start : Bench :=
  ⟨0, Timer.new 0⟩

/-- Look at the timer at the instant `now`. -/
def lookAt (b : Bench) (now : Instant) (missing : Answer) : Answer × Bench :=
  let (event, timer) := b.timer.poll now
  ((event.map Answer.observed).getD missing, ⟨now, timer⟩)

/-- One operation: its answer and what is left. -/
def step (b : Bench) : Action → Answer × Bench
  | .renew => (.done, { b with timer := Timer.new b.now })
  | .expiresAfter d => (.done, { b with timer := b.timer.expiresAfter b.now d })
  | .cancel =>
    let (was, timer) := b.timer.cancel
    (.cancelled was, { b with timer })
  | .advance d => (.done, { b with now := b.now + d.total })
  | .wait => b.lookAt (b.timer.wakeAt b.now) .pending
  | .waitAtMost limit =>
    let give := max b.now (roundUp (deadlineAfter b.now limit))
    let wake := b.timer.wakeAt b.now
    if wake ≤ give then b.lookAt wake .pending else (.gaveUp, { b with now := give })
  | .poll => b.lookAt b.now .pending

/-- The answers of a history, each with the bench after it and the milliseconds that passed. -/
def run (b : Bench) : List Action → List (Answer × TimerState × Nat)
  | [] => []
  | a :: rest =>
    let (answer, next) := b.step a
    (answer, next.timer.state, (next.now - b.now) / nanosPerMilli) :: next.run rest

end Timer.Bench

end BoundedTls.Time
