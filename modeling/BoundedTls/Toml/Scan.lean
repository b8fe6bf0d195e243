import BoundedTls.Toml.Basic

/-!
# Scanning

Small readers over the characters of a document. A reader takes characters off the front or
refuses; a refusal says nothing about its cause, because a document that cannot be read is
reported as a whole.
-/

namespace BoundedTls.Toml

/-- The characters that are left, and how many came before them. -/
structure Cursor where
  position : Nat
  rest : List Char

/-- A reader of a value of type `α`. -/
abbrev Scan (α : Type) := StateT Cursor Option α

namespace Scan

/-- Refuse. -/
def refuse {α : Type} : Scan α := fun _ => none

/-- The next character, which stays where it is. -/
def peek : Scan (Option Char) := fun cursor => some (cursor.rest.head?, cursor)

/-- The next characters up to a count, which stay where they are. -/
def peekMany (count : Nat) : Scan (List Char) := fun cursor => some (cursor.rest.take count, cursor)

/-- How many characters came before. -/
def position : Scan Nat := fun cursor => some (cursor.position, cursor)

/-- How many characters are left. -/
def remaining : Scan Nat := fun cursor => some (cursor.rest.length, cursor)

/-- Take one character. -/
def next : Scan Char := fun cursor =>
  match cursor.rest with
  | c :: rest => some (c, ⟨cursor.position + 1, rest⟩)
  | [] => none

/-- Take one character that passes the test. -/
def satisfy (test : Char → Bool) : Scan Char := fun cursor =>
  match cursor.rest with
  | c :: rest => if test c then some (c, ⟨cursor.position + 1, rest⟩) else none
  | [] => none

/-- Take exactly the character `c`. -/
def char (c : Char) : Scan Unit := do
  let _ ← satisfy (· == c)

/-- Take exactly these characters. -/
def text : List Char → Scan Unit
  | [] => pure ()
  | c :: rest => do
    char c
    text rest

/-- Take characters as long as they pass the test. -/
def takeWhile (test : Char → Bool) : Scan (List Char) := fun cursor =>
  let taken := cursor.rest.takeWhile test
  some (taken, ⟨cursor.position + taken.length, cursor.rest.drop taken.length⟩)

/-- What a reader finds, or nothing and no characters taken. -/
def optional {α : Type} (scan : Scan α) : Scan (Option α) := fun cursor =>
  match scan cursor with
  | some (a, after) => some (some a, after)
  | none => some (none, cursor)

/-- Try the first reader; if it refuses, the second one from the same place. -/
def orElse {α : Type} (first second : Scan α) : Scan α := fun cursor =>
  match first cursor with
  | some result => some result
  | none => second cursor

/-- The results of a reader applied again and again until it refuses, at most `bound` times. -/
def repeatUpTo {α : Type} (bound : Nat) (scan : Scan α) : Scan (List α) :=
  match bound with
  | 0 => pure []
  | bound + 1 => do
    match ← optional scan with
    | some a => return a :: (← repeatUpTo bound scan)
    | none => return []

/-- The results of a reader applied until it refuses. Every success takes at least one character,
so the number of characters left bounds the number of successes. -/
def many {α : Type} (scan : Scan α) : Scan (List α) := do
  repeatUpTo (← remaining) scan

/-- A value and the part of the text it was read from. -/
def spanned {α : Type} (scan : Scan α) : Scan (α × Span) := do
  let start ← position
  let a ← scan
  return (a, ⟨start, ← position⟩)

/-! ## Blanks, comments and line ends -/

/-- A blank inside a line. -/
def isBlank (c : Char) : Bool :=
  c == ' ' || c == '\t'

/-- Skip blanks inside the line. -/
def blanks : Scan Unit := do
  let _ ← takeWhile isBlank

/-- A character that may stand in a comment: no control but the tab. -/
def isCommentChar (c : Char) : Bool :=
  c == '\t' || (' ' ≤ c && c != '\x7f')

/-- A comment, without the line end behind it. -/
def comment : Scan Unit := do
  char '#'
  let _ ← takeWhile isCommentChar

/-- A line end: a line feed, or a carriage return with a line feed. -/
def newline : Scan Unit := do
  let _ ← optional (char '\r')
  char '\n'

/-- A line end or the end of the document. -/
def lineEnd : Scan Unit := do
  match ← peek with
  | none => pure ()
  | some _ => newline

/-- What may stand behind a value or a header: blanks, a comment, the line end. -/
def lineTrailing : Scan Unit := do
  blanks
  let _ ← optional comment
  lineEnd

/-- One of the pieces that may stand between the items of an array. -/
def gapPiece : Scan Unit := do
  match ← peek with
  | some '#' => comment; newline
  | some '\n' | some '\r' => newline
  | _ =>
    let _ ← satisfy isBlank
    blanks

/-- Blanks, comments and line ends between the items of an array. -/
def gap : Scan Unit := do
  let _ ← many gapPiece

end Scan

end BoundedTls.Toml
