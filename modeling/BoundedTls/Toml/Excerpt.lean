import BoundedTls.Toml.Basic
import BoundedTls.Text.Numeral

/-!
# Excerpts

A complaint about a document that shows the line it is about, with marks under the offending
part.
-/

namespace BoundedTls.Toml

open BoundedTls.Text

/-- The number of bytes of a text. -/
def byteLength (s : List Char) : Nat :=
  (s.map Char.utf8Size).foldl (· + ·) 0

/-- The line that starts at the front of a text. -/
def firstLine (s : List Char) : List Char :=
  s.takeWhile (· != '\n')

/-- The complaint about the part of the document at `span`: line and column, the line itself, and
a row of marks, one per byte of the part but none beyond the line and always at least one. -/
def excerpt (source : List Char) (span : Span) (complaint : String) : String :=
  let before := source.take span.start
  let sinceBreak := (before.reverse.takeWhile (· != '\n')).length
  let lineNumber := numeral (before.count '\n' + 1)
  let line := firstLine (source.drop (span.start - sinceBreak))
  let part := (source.take span.stop).drop span.start
  let marks := max 1 (min (byteLength part) (byteLength line - sinceBreak))
  let pad := String.ofList (List.replicate (lineNumber.length + 1) ' ')
  let row := String.ofList (List.replicate (sinceBreak + 1) ' ' ++ List.replicate marks '^')
  "TOML parse error at line " ++ lineNumber ++ ", column " ++ numeral (sinceBreak + 1) ++ "\n"
    ++ pad ++ "|\n"
    ++ lineNumber ++ " | " ++ String.ofList line ++ "\n"
    ++ pad ++ "|" ++ row ++ "\n"
    ++ complaint ++ "\n"

end BoundedTls.Toml
