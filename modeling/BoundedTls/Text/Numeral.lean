/-!
# Decimal numerals

Natural numbers in decimal digits, and back.
-/

namespace BoundedTls.Text

/-- The decimal digits of a number, without leading zeros. -/
def numeral (n : Nat) : String :=
  String.ofList (Nat.toDigits 10 n)

/-- The value of an ASCII decimal digit. -/
def digitValue? (c : Char) : Option Nat :=
  if '0' ≤ c && c ≤ '9' then some (c.toNat - '0'.toNat) else none

/-- The value of an ASCII hexadecimal digit in either case. -/
def hexValue? (c : Char) : Option Nat :=
  if '0' ≤ c && c ≤ '9' then some (c.toNat - '0'.toNat)
  else if 'a' ≤ c && c ≤ 'f' then some (c.toNat - 'a'.toNat + 10)
  else if 'A' ≤ c && c ≤ 'F' then some (c.toNat - 'A'.toNat + 10)
  else none

/-- The number that a sequence of digit values denotes in a base, most significant first. -/
def ofDigits (base : Nat) (digits : List Nat) : Nat :=
  digits.foldl (fun n d => n * base + d) 0

/-- The number that a text of decimal digits denotes; refused if it is empty or holds anything
but digits. -/
def readNumeral? (s : List Char) : Option Nat :=
  if s.isEmpty then none else (s.mapM digitValue?).map (ofDigits 10)

/-- The ASCII capital letters of a text made small; all other characters stay. -/
def asciiLower (s : List Char) : List Char :=
  s.map fun c => if 'A' ≤ c && c ≤ 'Z' then Char.ofNat (c.toNat + 32) else c

end BoundedTls.Text
