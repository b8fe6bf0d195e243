import BoundedTls.Number.Binary64

/-!
# Shortest decimals

The decimal with the fewest digits that reads back as a given double, and of those the nearest.
The numbers that round to the double form an interval around it, whose ends belong to it exactly
when the significand is even. For one, two, … digits the two neighbours of the value on that
decimal grid are tried; the first grid with a neighbour inside the interval decides.
-/

namespace BoundedTls.Number

/-- A positive decimal number: `digits` behind a point that is moved `point` places to the right,
so that `[1, 5]` at point 1 is 1.5. -/
structure Decimal where
  digits : List Nat
  point : Int
deriving Repr, DecidableEq

namespace Decimal

/-- The value and the ends of its rounding interval as integers over one common denominator. -/
structure Interval where
  low : Nat
  value : Nat
  high : Nat
  closed : Bool
  denominator : Nat

/-- The rounding interval of the double `m · 2^e`. Below a power of two the doubles are twice as
dense, so there the lower end is nearer. -/
def Interval.of (m : Nat) (e : Int) : Interval :=
  let lowerGap := if m = Nat.pow 2 52 ∧ Binary64.minExponent < e then 1 else 2
  let (unit, denominator) := Binary64.scaled 1 (e - 2)
  { low := (4 * m - lowerGap) * unit
    value := 4 * m * unit
    high := (4 * m + 2) * unit
    closed := m % 2 == 0
    denominator }

/-- The number lies in the interval; `scale` multiplies the interval first. -/
def Interval.holds (i : Interval) (scale n : Nat) : Bool :=
  if i.closed then i.low * scale ≤ n && n ≤ i.high * scale
  else i.low * scale < n && n < i.high * scale

/-- The number of places before the point: `10^(p-1) ≤ value < 10^p`. -/
def places (num den : Nat) : Int :=
  if den ≤ num then ((Nat.toDigits 10 (num / den)).length : Int)
  else
    -- `num / den < 1`: count the zeros behind the point
    let k := (Nat.toDigits 10 (den / num)).length
    if den ≤ num * Nat.pow 10 (k - 1) then 1 - ((k : Int) - 1) else -((k : Int) - 1)

/-- The grid point with `count` digits that reads back as the value, if there is one. -/
def onGrid? (i : Interval) (p : Int) (count : Nat) : Option Nat :=
  let shift : Int := count - p
  let scale := if 0 ≤ shift then Nat.pow 10 shift.toNat else 1
  let step := if 0 ≤ shift then i.denominator else i.denominator * Nat.pow 10 (-shift).toNat
  let value := i.value * scale
  let below := value / step
  let above := below + 1
  let okBelow := i.holds scale (below * step) && below != 0
  let okAbove := i.holds scale (above * step)
  match okBelow, okAbove with
  | true, true => some (if 2 * (value - below * step) ≤ step then below else above)
  | true, false => some below
  | false, true => some above
  | false, false => none

/-- The digits of a natural number, most significant first. -/
def digitsOf (n : Nat) : List Nat :=
  (Nat.toDigits 10 n).map fun c => c.toNat - '0'.toNat

/-- Zeros at the end are no digits of a shortest decimal. -/
def dropTrailingZeros (digits : List Nat) : List Nat :=
  (digits.reverse.dropWhile (· == 0)).reverse

/-- The shortest decimal of the double `m · 2^e`, for `m` above zero. Seventeen digits always
suffice. -/
def shortest (m : Nat) (e : Int) : Decimal :=
  let i := Interval.of m e
  let p := places i.value i.denominator
  let pick := (List.range 17).findSome? fun k => (onGrid? i p (k + 1)).map (k + 1, ·)
  match pick with
  | some (count, n) =>
    let digits := digitsOf n
    { digits := dropTrailingZeros digits, point := p + ((digits.length : Int) - count) }
  | none => { digits := [], point := 0 }

/-- The digit as a character. -/
def digitChar (d : Nat) : Char :=
  Char.ofNat ('0'.toNat + d)

/-- The decimal without an exponent, with at least one digit on either side of the point. -/
def positional (d : Decimal) : String :=
  let chars := d.digits.map digitChar
  if d.point ≤ 0 then
    String.ofList ("0.".toList ++ List.replicate (-d.point).toNat '0' ++ chars)
  else
    let k := d.point.toNat
    let before := chars.take k ++ List.replicate (k - chars.length) '0'
    let after := chars.drop k
    String.ofList (before ++ '.' :: (if after.isEmpty then ['0'] else after))

end Decimal

/-- A double in positional decimal notation: shortest digits, never an exponent. -/
def Binary64.render (x : Binary64) : String :=
  let sign := if x.negative then "-" else ""
  match x.magnitude with
  | .notANumber => "NaN"
  | .infinite => sign ++ "inf"
  | .finite m e => if m = 0 then sign ++ "0.0" else sign ++ (Decimal.shortest m e).positional

end BoundedTls.Number
