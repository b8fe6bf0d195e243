/-!
# Similar words

How much two words resemble each other, to guess what a mistyped word was meant to be. Equal
characters count as shared if they stand near each other; the measure is the mean of the shares of
both words that are shared, and of the share of shared characters that come in the same order.
-/

namespace BoundedTls.CommandLine

/-- How far from its place a character is looked for in the other word. -/
def reach (a b : List Char) : Nat :=
  max a.length b.length / 2 - 1

/-- The first place near `i` where a character stands that is not taken yet. -/
def place? (reach : Nat) (b : List Char) (taken : List Nat) (i : Nat) (c : Char) : Option Nat :=
  (List.range b.length).find? fun j =>
    i ≤ j + reach && j ≤ i + reach && b[j]? == some c && !taken.contains j

/-- The characters of the first word that are shared, and their places in the second. -/
def shared (a b : List Char) : List Char × List Nat :=
  ((List.range a.length).zip a).foldl
    (fun (chars, taken) (i, c) =>
      match place? (reach a b) b taken i c with
      | some j => (chars ++ [c], taken ++ [j])
      | none => (chars, taken))
    ([], [])

/-- The resemblance of two words, from zero to one. -/
def similarity (a b : String) : Float :=
  let left := a.toList
  let right := b.toList
  if left.isEmpty && right.isEmpty then 1
  else
    let (chars, taken) := shared left right
    if chars.isEmpty then 0
    else
      let others := ((List.range right.length).filter taken.contains).filterMap (right[·]?)
      let displaced := (chars.zip others).countP fun (c, d) => c != d
      let count := chars.length
      (count.toFloat / left.length.toFloat + count.toFloat / right.length.toFloat
        + (count - displaced / 2).toFloat / count.toFloat) / 3

/-- Insert a word behind all that resemble less or as much. -/
def insertByScore (score : Float) (word : String) :
    List (Float × String) → List (Float × String)
  | [] => [(score, word)]
  | first :: rest =>
    if score < first.1 then (score, word) :: first :: rest
    else first :: insertByScore score word rest

/-- The words that resemble a given one well enough, the best last. -/
def lookalikes (given : String) (words : List String) : List String :=
  let scored := words.foldl
    (fun found word =>
      let score := similarity given word
      if 0.7 < score then insertByScore score word found else found)
    []
  scored.map Prod.snd

end BoundedTls.CommandLine
