import BoundedTls.Toml.Scan
import BoundedTls.Text.Numeral

/-!
# Numbers

Integers of 64 bits in four bases and floating-point numbers; underscores may stand between
digits.
-/

namespace BoundedTls.Toml.Scan

open BoundedTls.Text

/-- Digits that pass the test, with single underscores between them. -/
def digitRun (test : Char → Bool) : Scan (List Char) := do
  let first ← satisfy test
  let others ← many do
    let _ ← optional (char '_')
    satisfy test
  return first :: others

/-- The value of a run of digits. -/
def digitsValue (base : Nat) (digits : List Char) : Nat :=
  ofDigits base (digits.filterMap hexValue?)

/-- A decimal digit. -/
def isDecimal (c : Char) : Bool :=
  '0' ≤ c && c ≤ '9'

/-- A sign; true for minus. -/
def sign : Scan Bool := do
  match ← peek with
  | some '+' => char '+'; return false
  | some '-' => char '-'; return true
  | _ => return false

/-- The digits of a decimal number without a leading zero. -/
def decimalDigits : Scan (List Char) := do
  match ← peek with
  | some '0' => char '0'; return ['0']
  | _ => digitRun isDecimal

/-- An integer that fits 64 bits. -/
def inRange (n : Int) : Scan Scalar :=
  if -9223372036854775808 ≤ n ∧ n ≤ 9223372036854775807 then return .integer n else refuse

/-- An integer in one of the bases that are named by a letter after a zero. -/
def basedInteger (letter : Char) (base : Nat) (test : Char → Bool) : Scan Scalar := do
  text ['0', letter]
  let digits ← digitRun test
  inRange (digitsValue base digits)

/-- A decimal integer. -/
def decimalInteger : Scan Scalar := do
  let negative ← sign
  let n : Int := digitsValue 10 (← decimalDigits)
  inRange (if negative then -n else n)

/-- An integer. -/
def integer : Scan Scalar := do
  match ← peekMany 2 with
  | ['0', 'x'] => basedInteger 'x' 16 fun c => (hexValue? c).isSome
  | ['0', 'o'] => basedInteger 'o' 8 fun c => '0' ≤ c && c ≤ '7'
  | ['0', 'b'] => basedInteger 'b' 2 fun c => c == '0' || c == '1'
  | _ => decimalInteger

/-- The exponent of a floating-point number. -/
def exponent : Scan Int := do
  let _ ← satisfy fun c => c == 'e' || c == 'E'
  let negative ← sign
  let n : Int := digitsValue 10 (← digitRun isDecimal)
  return if negative then -n else n

/-- A number with a fraction, an exponent or both. A number too large to be finite is refused
above zero and is an infinity below it. -/
def decimalFloat : Scan Scalar := do
  let negative ← sign
  let whole ← decimalDigits
  let fraction ← optional do
    char '.'
    digitRun isDecimal
  let power ← optional exponent
  if fraction.isNone && power.isNone then refuse
  let behind := fraction.getD []
  let magnitude :=
    Number.Binary64.ofDecimal (digitsValue 10 (whole ++ behind)) (power.getD 0 - behind.length)
  if magnitude = .infinite ∧ !negative then refuse
  else return .float ⟨negative, magnitude⟩

/-- An infinity or a value that is no number. -/
def specialFloat : Scan Scalar := do
  let negative ← sign
  match ← peek with
  | some 'i' => text ['i', 'n', 'f']; return .float ⟨negative, .infinite⟩
  | _ => text ['n', 'a', 'n']; return .float ⟨negative, .notANumber⟩

/-- A floating-point number. -/
def float : Scan Scalar :=
  orElse decimalFloat specialFloat

end BoundedTls.Toml.Scan
