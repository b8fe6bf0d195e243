import BoundedTls.Text.Hidden

/-!
# Quoted text

A text between double quotes, in which the quote, the backslash and every hidden character are
written with a leading backslash. The quoted form never holds a control character and ends at
its first bare quote, so a quoted text inside a longer message cannot be mistaken for the words
around it.
-/

namespace BoundedTls.Text

/-- The hexadecimal digits of a number, most significant first, without leading zeros. -/
def hexDigits (n : Nat) : List Char :=
  Nat.toDigits 16 n

/-- The written form of one character inside a quoted text. -/
def escapeChar (c : Char) : List Char :=
  if c = '"' then ['\\', '"']
  else if c = '\\' then ['\\', '\\']
  else if c = '\n' then ['\\', 'n']
  else if c = '\r' then ['\\', 'r']
  else if c = '\t' then ['\\', 't']
  else if c = '\x00' then ['\\', '0']
  else if isHidden c then ['\\', 'u', '\x7b'] ++ hexDigits c.toNat ++ ['\x7d']
  else [c]

/-- The written form of a sequence of characters, without the quotes around it. -/
def escape (s : List Char) : List Char :=
  s.flatMap escapeChar

/-- The text between quotes, hidden characters escaped. -/
def quoted (s : String) : String :=
  String.ofList ('"' :: (escape s.toList ++ ['"']))

end BoundedTls.Text
