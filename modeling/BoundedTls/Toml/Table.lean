import BoundedTls.Toml.Basic

/-!
# Building tables

The rules by which keys and headers fill tables. A table may be opened by one header only; a
dotted key may add to tables that dotted keys made, and to none that a header or braces made; a
header may open a table that was only mentioned on the way to another one, which then moves to
the end of its parent.
-/

namespace BoundedTls.Toml

/-- Look up the value of a key. -/
def Entries.find? (entries : Entries) (name : String) : Option Node :=
  (List.find? (fun entry => entry.1.text == name) entries).map Prod.snd

/-- Change the value of a key in place, or add one at the end; the change may be refused. It
also yields something. -/
def Entries.alter {α : Type} (entries : Entries) (key : Key)
    (change : Option Node → Option (α × Node)) : Option (α × Entries) :=
  match entries with
  | [] => (change none).map fun (a, node) => (a, [(key, node)])
  | (k, node) :: rest =>
    if k.text = key.text then (change (some node)).map fun (a, node) => (a, (k, node) :: rest)
    else (Entries.alter rest key change).map fun (a, rest) => (a, (k, node) :: rest)

/-- A table under construction. -/
structure OpenTable where
  info : TableInfo
  entries : Entries

namespace OpenTable

/-- The table as a value. -/
def close (t : OpenTable) : Node :=
  .table t.info t.entries

/-- Change the last of some items. -/
def alterLast {α : Type} (change : Node → Option (α × Node)) : List Node → Option (α × List Node)
  | [] => none
  | [last] => (change last).map fun (a, node) => (a, [node])
  | node :: rest => (alterLast change rest).map fun (a, rest) => (a, node :: rest)

/-- Walk from a table along a path, making the tables that are missing, and act on the table at
its end. The walk enters tables of the same writing (braces or headers) and, of repeated tables,
the last; a dotted walk enters no table that was made explicitly. -/
def descend {α : Type} (inline dotted : Bool) (act : OpenTable → Option (α × OpenTable)) :
    List Key → OpenTable → Option (α × OpenTable)
  | [], table => act table
  | key :: path, table => do
    let enter (info : TableInfo) (entries : Entries) : Option (α × OpenTable) :=
      if info.inline != inline || (dotted && !info.implicit) then none
      else descend inline dotted act path ⟨info, entries⟩
    let asNode (result : α × OpenTable) : α × Node := (result.1, result.2.close)
    let (a, entries) ← table.entries.alter key fun
      | none =>
        (descend inline dotted act path ⟨⟨inline, true, dotted, none⟩, []⟩).map asNode
      | some (.table info entries) => (enter info entries).map asNode
      | some (.tables span items) =>
        let change : Node → Option (α × Node)
          | .table info entries =>
            (descend inline dotted act path ⟨info, entries⟩).map asNode
          | _ => none
        (alterLast change items).map fun (a, items) => (a, .tables span items)
      | some _ => none
    return (a, { table with entries })

/-- Put a value under a key that is still free. -/
def put (path : List Key) (key : Key) (value : Node) (table : OpenTable) :
    Option (Unit × OpenTable) :=
  if table.info.dotted == path.isEmpty then none
  else (table.entries.alter key fun
    | none => some ((), value)
    | some _ => none).map fun (_, entries) => ((), { table with entries })

/-- Add a value under a dotted key. -/
def insert (inline : Bool) (table : OpenTable) (path : List Key) (key : Key) (value : Node) :
    Option OpenTable :=
  (descend inline true (put path key value) path table).map Prod.snd

end OpenTable

/-! ## Documents under construction -/

/-- What the lines behind the last header belong to. -/
inductive Section where
  /-- There was no header yet. -/
  | root
  /-- The table of a header. -/
  | table (path : List Key) (key : Key)
  /-- A new table of a repeated header. -/
  | element (path : List Key) (key : Key)

/-- A document whose lines are being read: the finished part, and the table that is open. -/
structure Builder where
  finished : OpenTable
  current : OpenTable
  place : Section

namespace Builder

/-- A table of headers without content. -/
def emptyTable (span : Option Span) : OpenTable :=
  ⟨⟨false, false, false, span⟩, []⟩

/-- A document before its first line. -/
def start : Builder :=
  ⟨emptyTable none, emptyTable none, .root⟩

/-- The text from the first item to the last. -/
def spanOf (items : List Node) : Option Span := do
  let first ← (← items.head?).span?
  let last ← (← items.getLast?).span?
  return ⟨first.start, last.stop⟩

/-- Append a table under a repeated header. -/
def append (key : Key) (item : Node) (parent : OpenTable) : Option (Unit × OpenTable) :=
  (parent.entries.alter key fun
    | none => some ((), .tables (spanOf [item]) [item])
    | some (.tables _ items) =>
      let items := items ++ [item]
      some ((), .tables (spanOf items) items)
    | some _ => none).map fun (_, entries) => ((), { parent with entries })

/-- Put the open table where its header says. -/
def closeSection (b : Builder) : Option OpenTable :=
  match b.place with
  | .root => some b.current
  | .table path key =>
    let add (parent : OpenTable) : Option (Unit × OpenTable) :=
      if (parent.entries.find? key.text).isSome then none
      else some ((), { parent with entries := parent.entries ++ [(key, b.current.close)] })
    (OpenTable.descend false false add path b.finished).map Prod.snd
  | .element path key =>
    (OpenTable.descend false false (append key b.current.close) path b.finished).map Prod.snd

/-- Take a table out of its parent so that its header can open it; only a table that was merely
mentioned may be taken. -/
def takeImplicit (key : Key) (parent : OpenTable) : Option (Entries × OpenTable) :=
  match parent.entries.find? key.text with
  | none => some ([], parent)
  | some (.table info entries) =>
    if info.implicit && !info.dotted && !info.inline then
      let others := parent.entries.filter fun entry => entry.1.text != key.text
      some (entries, { parent with entries := others })
    else none
  | some _ => none

/-- A single-bracket header. -/
def openTable (b : Builder) (path : List Key) (key : Key) (span : Span) : Option Builder := do
  let finished ← b.closeSection
  let (entries, finished) ← OpenTable.descend false false (takeImplicit key) path finished
  return ⟨finished, { emptyTable (some span) with entries }, .table path key⟩

/-- A repeated header may stand where nothing is or where other repeated tables are. -/
def reserve (key : Key) (parent : OpenTable) : Option (Unit × OpenTable) :=
  match parent.entries.find? key.text with
  | none => some ((), { parent with entries := parent.entries ++ [(key, .tables none [])] })
  | some (.tables _ _) => some ((), parent)
  | some _ => none

/-- A double-bracket header. -/
def openElement (b : Builder) (path : List Key) (key : Key) (span : Span) : Option Builder := do
  let finished ← b.closeSection
  let (_, finished) ← OpenTable.descend false false (reserve key) path finished
  return ⟨finished, emptyTable (some span), .element path key⟩

/-- A line with a key and a value. It extends the text of the open table. -/
def addLine (b : Builder) (path : List Key) (key : Key) (value : Node) : Option Builder := do
  let extended : Option Span :=
    match b.current.info.span, value.span? with
    | some whole, some last => some ⟨whole.start, last.stop⟩
    | span, _ => span
  let current : OpenTable := { b.current with info := { b.current.info with span := extended } }
  return { b with current := ← current.insert false path key value }

/-- The root table of the document. -/
def finish (b : Builder) : Option Entries :=
  b.closeSection.map OpenTable.entries

end Builder

end BoundedTls.Toml
