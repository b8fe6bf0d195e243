import BoundedTls.Toml.Scan
import BoundedTls.Text.Numeral

/-!
# Strings and keys

Basic strings with escapes, literal strings without, each on one line or on several, and the
keys of tables.
-/

namespace BoundedTls.Toml.Scan

open BoundedTls.Text

/-- A character that stands for itself on a line of a string, the delimiters apart. -/
def isPlain (c : Char) : Bool :=
  isCommentChar c

/-- A code point in exactly `width` hexadecimal digits. -/
def codePoint (width : Nat) : Scan Char := fun cursor =>
  let digits := (cursor.rest.take width).filterMap hexValue?
  let code := ofDigits 16 digits
  if h : digits.length = width ∧ code.isValidChar then
    some (Char.ofNatAux code h.2, ⟨cursor.position + width, cursor.rest.drop width⟩)
  else none

/-- The character that an escape stands for, the backslash taken already. -/
def escaped : Scan Char := do
  match ← next with
  | 'b' => return '\x08'
  | 't' => return '\t'
  | 'n' => return '\n'
  | 'f' => return '\x0c'
  | 'r' => return '\r'
  | '"' => return '"'
  | '\\' => return '\\'
  | 'u' => codePoint 4
  | 'U' => codePoint 8
  | _ => refuse

/-- One character of a basic string. -/
def basicChar : Scan Char := do
  match ← next with
  | '\\' => escaped
  | '"' => refuse
  | c => if isPlain c then return c else refuse

/-- A basic string on one line. -/
def basicString : Scan String := do
  char '"'
  let chars ← many basicChar
  char '"'
  return String.ofList chars

/-- A literal string on one line. -/
def literalString : Scan String := do
  char '\''
  let chars ← takeWhile fun c => isPlain c && c != '\''
  char '\''
  return String.ofList chars

/-- A backslash at the end of a line joins the lines: it stands for nothing, together with the
line end and all blanks and line ends that follow. -/
def lineJoin : Scan (List Char) := do
  char '\\'
  blanks
  newline
  let _ ← many (orElse newline do let _ ← satisfy isBlank)
  return []

/-- Up to two quotes inside a string on several lines. -/
def innerQuotes (quote : Char) : Scan (List Char) := do
  let ahead ← peekMany 3
  match ahead.takeWhile (· == quote) with
  | [_] => char quote; return [quote]
  | [_, _] => char quote; char quote; return [quote, quote]
  | _ => refuse

/-- A line end inside a string is one line feed however it is written. -/
def innerNewline : Scan (List Char) := do
  newline
  return ['\n']

/-- The quotes that end a string on several lines: three, and up to two more that belong to the
string. -/
def closingQuotes (quote : Char) : Scan (List Char) := do
  let quotes ← takeWhile (· == quote)
  if 3 ≤ quotes.length ∧ quotes.length ≤ 5 then return quotes.drop 3 else refuse

/-- A piece of a basic string on several lines. -/
def basicPiece : Scan (List Char) := do
  match ← peek with
  | some '"' => innerQuotes '"'
  | some '\\' => orElse lineJoin do
    char '\\'
    return [← escaped]
  | some '\n' | some '\r' => innerNewline
  | _ =>
    let c ← satisfy isPlain
    return [c]

/-- A piece of a literal string on several lines. -/
def literalPiece : Scan (List Char) := do
  match ← peek with
  | some '\'' => innerQuotes '\''
  | some '\n' | some '\r' => innerNewline
  | _ =>
    let c ← satisfy isPlain
    return [c]

/-- A string on several lines; a line end right behind the opening quotes is dropped. -/
def multiline (quote : Char) (piece : Scan (List Char)) : Scan String := do
  text [quote, quote, quote]
  let _ ← optional newline
  let pieces ← many piece
  let tail ← closingQuotes quote
  return String.ofList (pieces.flatten ++ tail)

/-- A string of any of the four kinds. -/
def string : Scan String := do
  match ← peekMany 3 with
  | ['"', '"', '"'] => multiline '"' basicPiece
  | ['\'', '\'', '\''] => multiline '\'' literalPiece
  | '"' :: _ => basicString
  | _ => literalString

/-! ## Keys -/

/-- A character of a bare key. -/
def isBareKeyChar (c : Char) : Bool :=
  ('a' ≤ c && c ≤ 'z') || ('A' ≤ c && c ≤ 'Z') || ('0' ≤ c && c ≤ '9') || c == '_' || c == '-'

/-- One part of a key: bare, or quoted on one line. -/
def simpleKey : Scan String := do
  match ← peek with
  | some '"' => basicString
  | some '\'' => literalString
  | _ =>
    let chars ← takeWhile isBareKeyChar
    if chars.isEmpty then refuse else return String.ofList chars

/-- One part of a key with the blanks around it. -/
def keyPart : Scan Key := do
  blanks
  let (text, span) ← spanned simpleKey
  blanks
  return ⟨text, span⟩

/-- The nesting that a document may not reach: of arrays and inline tables, or of the parts of a
key. -/
def nestingLimit : Nat := 80

/-- A key: parts with dots between them, fewer than the nesting limit. It is returned as the way
to its last part, and that part. -/
def key : Scan (List Key × Key) := do
  let first ← keyPart
  let others ← many do
    char '.'
    keyPart
  let parts := first :: others
  if nestingLimit ≤ parts.length then refuse
  else return (parts.dropLast, parts.getLast?.getD first)

end BoundedTls.Toml.Scan
