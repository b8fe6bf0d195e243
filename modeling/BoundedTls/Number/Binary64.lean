/-!
# Binary floating point

The nearest double to a decimal number, ties to the even significand. A finite double is a
significand below 2^53 times a power of two no smaller than 2^-1074; zero has significand zero.
-/

namespace BoundedTls.Number

/-- A double, its sign apart. -/
inductive Magnitude where
  /-- The value `significand · 2^exponent`. -/
  | finite (significand : Nat) (exponent : Int)
  | infinite
  | notANumber
deriving Repr, DecidableEq

/-- A double: a sign and a magnitude. -/
structure Binary64 where
  negative : Bool
  magnitude : Magnitude
deriving Repr, DecidableEq

namespace Binary64

/-- The smallest exponent of a double. -/
def minExponent : Int := -1074

/-- The largest exponent of a double whose significand has 53 bits. -/
def maxExponent : Int := 971

/-- The number `n · 2^k` as a numerator and a denominator. -/
def scaled (n : Nat) (k : Int) : Nat × Nat :=
  if 0 ≤ k then (n * Nat.pow 2 k.toNat, 1) else (n, Nat.pow 2 (-k).toNat)

/-- The quotient rounded to the nearest natural number, a half to the even neighbour. -/
def roundHalfEven (num den : Nat) : Nat :=
  let q := num / den
  let r := num % den
  if 2 * r < den then q
  else if den < 2 * r then q + 1
  else if q % 2 = 0 then q else q + 1

/-- The exponent of the double nearest to the positive number `num / den`. -/
def exponentFor (num den : Nat) : Int :=
  let guess : Int := (Nat.log2 num : Int) - (Nat.log2 den : Int) - 53
  let fits (e : Int) : Bool :=
    let (a, b) := scaled den e
    num * b / a < Nat.pow 2 53
  let e := if fits guess then guess else if fits (guess + 1) then guess + 1 else guess + 2
  max e minExponent

/-- The magnitude nearest to `num / den`. -/
def nearest (num den : Nat) : Magnitude :=
  if num = 0 then .finite 0 minExponent
  else
    let e := exponentFor num den
    let (a, b) := scaled den e
    let m := roundHalfEven (num * b) a
    let (m, e) := if m = Nat.pow 2 53 then (Nat.pow 2 52, e + 1) else (m, e)
    if maxExponent < e then .infinite else .finite m e

/-- The magnitude nearest to `digits · 10^exponent`. Exponents far outside the range of doubles
are decided without computing the power. -/
def ofDecimal (digits : Nat) (exponent : Int) : Magnitude :=
  let width : Int := (Nat.toDigits 10 digits).length
  if digits = 0 then .finite 0 minExponent
  else if 400 < exponent + width then .infinite
  else if exponent + width < -400 then .finite 0 minExponent
  else if 0 ≤ exponent then nearest (digits * Nat.pow 10 exponent.toNat) 1
  else nearest digits (Nat.pow 10 (-exponent).toNat)

end Binary64

end BoundedTls.Number
