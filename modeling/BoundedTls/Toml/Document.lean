import BoundedTls.Toml.Table
import BoundedTls.Toml.Text
import BoundedTls.Toml.Date

/-!
# Reading documents

Values, lines and whole documents. Arrays and inline tables nest to a limited depth, and the
depth that is left is the argument on which the reader of values recurs.
-/

namespace BoundedTls.Toml

namespace Scan

/-- The items of an array behind its opening bracket, at most `bound`. -/
def arrayItems (item : Scan Node) : Nat → Scan (List Node)
  | 0 => refuse
  | bound + 1 => do
    gap
    match ← peek with
    | some ']' =>
      char ']'
      return []
    | _ =>
      let value ← item
      gap
      match ← next with
      | ',' => return value :: (← arrayItems item bound)
      | ']' => return [value]
      | _ => refuse

/-- An array; a comma may stand behind its last item. -/
def array (item : Scan Node) : Scan (List Node) := do
  char '['
  arrayItems item (← remaining)

/-- A key and its value inside braces. -/
def inlinePair (item : Scan Node) : Scan (List Key × Key × Node) := do
  let (path, key) ← key
  char '='
  blanks
  let value ← item
  blanks
  return (path, key, value)

/-- The pairs of an inline table behind the first, at most `bound`, and the closing brace. -/
def inlinePairs (item : Scan Node) (table : OpenTable) : Nat → Scan OpenTable
  | 0 => refuse
  | bound + 1 => do
    let (path, key, value) ← inlinePair item
    match table.insert true path key value with
    | none => refuse
    | some table =>
      match ← next with
      | ',' => inlinePairs item table bound
      | '\x7d' => return table
      | _ => refuse

/-- An inline table, all on one line and without a comma behind its last pair. -/
def inlineTable (item : Scan Node) : Scan OpenTable := do
  let empty : OpenTable := ⟨⟨true, false, false, none⟩, []⟩
  char '\x7b'
  blanks
  match ← peek with
  | some '\x7d' =>
    char '\x7d'
    return empty
  | _ => inlinePairs item empty (← remaining)

/-- A value without parts, named by its first character. -/
def scalar (first : Char) : Scan Scalar :=
  match first with
  | '"' | '\'' => do return .text (← string)
  | 't' => do text ['t', 'r', 'u', 'e']; return .boolean true
  | 'f' => do text ['f', 'a', 'l', 's', 'e']; return .boolean false
  | 'i' | 'n' => specialFloat
  | _ =>
    if first == '+' || first == '-' || isDecimal first then
      orElse dateTime (orElse float integer)
    else refuse

/-- A value without parts and the text it was read from. -/
def leaf : Scan Node := do
  match ← peek with
  | some first =>
    let (content, span) ← spanned (scalar first)
    return .scalar span content
  | none => refuse

/-- A value with at most `depth` levels of arrays and inline tables. -/
def value : Nat → Scan Node
  | 0 => leaf
  | depth + 1 => do
    match ← peek with
    | some '[' =>
      let (items, span) ← spanned (array (value depth))
      return .array span items
    | some '\x7b' =>
      let (table, span) ← spanned (inlineTable (value depth))
      return .table { table.info with span := some span } table.entries
    | _ => leaf

/-- A line with a key and a value. -/
def line (b : Builder) : Scan Builder := do
  let (path, key) ← key
  char '='
  blanks
  let value ← value (nestingLimit - 1)
  lineTrailing
  match b.addLine path key value with
  | some b => return b
  | none => refuse

/-- A header line. -/
def header (b : Builder) : Scan Builder := do
  let repeated := (← peekMany 2) == ['[', '[']
  let ((path, key), span) ← spanned do
    if repeated then
      text ['[', '[']
      let name ← key
      text [']', ']']
      return name
    else
      char '['
      let name ← key
      char ']'
      return name
  lineTrailing
  match if repeated then b.openElement path key span else b.openTable path key span with
  | some b => return b
  | none => refuse

/-- The lines of a document, at most `bound`. -/
def lines (b : Builder) : Nat → Scan Builder
  | 0 => refuse
  | bound + 1 => do
    blanks
    match ← peek with
    | none => return b
    | some '#' =>
      comment
      lineEnd
      lines b bound
    | some '\n' | some '\r' =>
      newline
      lines b bound
    | some '[' => lines (← header b) bound
    | some _ => lines (← line b) bound

/-- A whole document. A byte order mark may stand in front of it. -/
def document : Scan Entries := do
  let _ ← optional (char '\ufeff')
  let b ← lines Builder.start ((← remaining) + 1)
  match b.finish with
  | some entries => return entries
  | none => refuse

end Scan

/-- The root table of a document; none if the text is not a document. -/
def parse? (source : List Char) : Option Entries :=
  (Scan.document ⟨0, source⟩).map Prod.fst

end BoundedTls.Toml
