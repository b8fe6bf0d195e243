import BoundedTls.Toml.Number

/-!
# Dates and times

The forms of a date, a time and both together, with every part checked against the calendar and
the clock.
-/

namespace BoundedTls.Toml.Scan

open BoundedTls.Text

/-- A number of exactly `width` digits between two bounds. -/
def fixedNumber (width low high : Nat) : Scan Nat := fun cursor =>
  let digits := (cursor.rest.take width).filterMap digitValue?
  let n := ofDigits 10 digits
  if digits.length = width ∧ low ≤ n ∧ n ≤ high then
    some (n, ⟨cursor.position + width, cursor.rest.drop width⟩)
  else none

/-- A leap year has a 29th of February. -/
def isLeapYear (year : Nat) : Bool :=
  year % 4 == 0 && (year % 100 != 0 || year % 400 == 0)

/-- The number of days of a month. -/
def daysInMonth (year month : Nat) : Nat :=
  if month = 2 then if isLeapYear year then 29 else 28
  else if month = 4 ∨ month = 6 ∨ month = 9 ∨ month = 11 then 30
  else 31

/-- A date: year, month and day. -/
def date : Scan Unit := do
  let year ← fixedNumber 4 0 9999
  char '-'
  let month ← fixedNumber 2 1 12
  char '-'
  let _ ← fixedNumber 2 1 (daysInMonth year month)

/-- A time of day; the seconds may be sixty for a leap second and may have a fraction. -/
def time : Scan Unit := do
  let _ ← fixedNumber 2 0 23
  char ':'
  let _ ← fixedNumber 2 0 59
  char ':'
  let _ ← fixedNumber 2 0 60
  let _ ← optional do
    char '.'
    let _ ← satisfy isDecimal
    takeWhile isDecimal

/-- The distance from universal time. -/
def offset : Scan Unit := do
  match ← next with
  | 'Z' | 'z' => pure ()
  | '+' | '-' =>
    let _ ← fixedNumber 2 0 23
    char ':'
    let _ ← fixedNumber 2 0 59
  | _ => refuse

/-- A time behind a date, with or without an offset. -/
def timeAfterDate : Scan Unit := do
  let _ ← satisfy fun c => c == 'T' || c == 't' || c == ' '
  time
  let _ ← optional offset

/-- A date, a date with a time, or a time. -/
def dateTime : Scan Scalar := do
  orElse (do date; let _ ← optional timeAfterDate) time
  return .dateTime

end BoundedTls.Toml.Scan
