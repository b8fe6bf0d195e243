import BoundedTls.Files
import BoundedTls.Log.Filter
import BoundedTls.World.Basic

/-!
# Processes

A process is one run of the program. It has a log, draws its own handles, and writes to two
outputs. What it does in the world passes through `Process.within`, so that the events of an
operation are written to the log of the process that did it.
-/

namespace BoundedTls

/-- The line for an event. -/
def Log.Event.line (e : Log.Event) : String :=
  Log.line e.level e.source.target e.message
    (e.fields.map fun (name, value) => (name, value.render))

/-- The event that an effect writes to the log. -/
def Effect.event? : Effect → Option Log.Event
  | .log event => some event
  | _ => none

namespace Program

/-- What a process finds when it starts. -/
structure Surroundings where
  files : Files
  /-- The log filter that the environment asks for. -/
  filter : Option String := none

/-- How a process has ended. -/
inductive Ending where
  | success
  /-- It could not do its work. -/
  | failure
  /-- Its command line was wrong. -/
  | misuse
  /-- It broke down. -/
  | crash
deriving DecidableEq, Repr

/-- The number by which a process reports how it has ended. -/
def Ending.code : Ending → Nat
  | success => 0
  | failure => 1
  | misuse => 2
  | crash => 101

/-- A process that has ended. -/
structure Exit where
  ending : Ending
  output : String
  errors : String
deriving DecidableEq, Repr

/-- A process. -/
structure Process where
  logger : Log.Logger := {}
  handles : HandleSource := {}
  /-- What was written to the standard output. -/
  output : String := ""
  /-- What was written to the standard error output. -/
  errors : String := ""
deriving DecidableEq, Repr

namespace Process

/-- Write a line to the standard output. -/
def print (p : Process) (line : String) : Process :=
  { p with output := p.output ++ line ++ "\n" }

/-- Write a line to the standard error output. -/
def complain (p : Process) (line : String) : Process :=
  { p with errors := p.errors ++ line ++ "\n" }

/-- Write an event to the log, if the log takes it. The log goes to the standard output. -/
def log (p : Process) (event : Log.Event) : Process :=
  if p.logger.writes event.source.target event.level then p.print event.line else p

/-- Write events to the log. -/
def logAll (p : Process) (events : List Log.Event) : Process :=
  events.foldl log p

/-- The process does something in the world. -/
def within {α : Type} (p : Process) (w : World) (go : World → α × World) : α × Process × World :=
  let (a, after) := go { w with handles := p.handles, trace := [] }
  let p := { p with handles := after.handles }
  (a, p.logAll (after.trace.filterMap Effect.event?), { after with trace := [] })

/-- The process ends. -/
def exit (p : Process) (ending : Ending) : Exit :=
  ⟨ending, p.output, p.errors⟩

end Process

end Program

end BoundedTls
