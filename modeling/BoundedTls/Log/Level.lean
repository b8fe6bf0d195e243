import BoundedTls.Text.Numeral

/-!
# Log levels

The five levels, from the gravest to the most detailed.
-/

namespace BoundedTls.Log

/-- How grave a log event is. -/
inductive Level where
  | error
  | warn
  | info
  | debug
  | trace
deriving DecidableEq, Repr

namespace Level

/-- The level as it is printed. -/
def label : Level → String
  | error => "ERROR"
  | warn => "WARN"
  | info => "INFO"
  | debug => "DEBUG"
  | trace => "TRACE"

/-- The level as it is configured. -/
def name : Level → String
  | error => "error"
  | warn => "warn"
  | info => "info"
  | debug => "debug"
  | trace => "trace"

/-- The detail of a level: one for errors up to five for traces. -/
def detail : Level → Nat
  | error => 1
  | warn => 2
  | info => 3
  | debug => 4
  | trace => 5

/-- All levels, gravest first. -/
def all : List Level :=
  [error, warn, info, debug, trace]

/-- The level of a configured name, in any ASCII case. -/
def ofName? (s : String) : Option Level :=
  all.find? fun level => level.name.toList == Text.asciiLower s.toList

end Level

end BoundedTls.Log
