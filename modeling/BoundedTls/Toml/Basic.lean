import BoundedTls.Number.Binary64

/-!
# Documents

The value tree of a configuration document. Every value and every key carries the part of the
text it was read from, so that a later complaint can point at it.
-/

namespace BoundedTls.Toml

/-- A part of the document: the positions of its first character and of the one behind it. -/
structure Span where
  start : Nat
  stop : Nat
deriving DecidableEq, Repr

/-- A value without parts. Dates and times are checked while reading and then kept as a mere
mark: no setting holds one. -/
inductive Scalar where
  | text (s : String)
  | integer (n : Int)
  | float (x : Number.Binary64)
  | boolean (b : Bool)
  | dateTime
deriving DecidableEq, Repr

/-- A key of a table. -/
structure Key where
  text : String
  span : Span
deriving DecidableEq, Repr

/-- How a table came to be, which decides who may add to it. -/
structure TableInfo where
  /-- Written between braces. -/
  inline : Bool
  /-- Only mentioned on the way to something inside it. -/
  implicit : Bool
  /-- Made by a dotted key. -/
  dotted : Bool
  /-- The text of the table; none where it has no text of its own. -/
  span : Option Span
deriving DecidableEq, Repr

/-- A value of a document. -/
inductive Node where
  | scalar (span : Span) (value : Scalar)
  | array (span : Span) (items : List Node)
  | table (info : TableInfo) (entries : List (Key × Node))
  /-- The tables of repeated double-bracket headers. -/
  | tables (span : Option Span) (items : List Node)
deriving Repr

/-- The keys and values of a table in the order in which they came. -/
abbrev Entries := List (Key × Node)

/-- The part of the text that a value was read from. -/
def Node.span? : Node → Option Span
  | .scalar span _ => some span
  | .array span _ => some span
  | .table info _ => info.span
  | .tables span _ => span

end BoundedTls.Toml
