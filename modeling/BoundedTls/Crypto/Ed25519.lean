import BoundedTls.Crypto.Modular
import BoundedTls.Crypto.Sha512

/-!
# The curve of Ed25519

Points of the twisted Edwards curve `-x² + y² = 1 + dx²y²` in projective coordinates, where `t`
holds the product of the other two. One formula adds any two points.
-/

namespace BoundedTls.Crypto.Ed25519

/-- The prime of the field. -/
def prime : Nat :=
  Nat.pow 2 255 - 19

/-- Twice the coefficient of the curve. -/
def doubleD : Nat :=
  2 * 0x52036cee2b6ffe738cc740797779e89800700a4d4141d8ab75eb4dca135978a3

/-- A point in projective coordinates. -/
structure Point where
  x : Nat
  y : Nat
  z : Nat
  t : Nat
deriving DecidableEq, Repr

/-- The unit of the group. -/
def unit : Point :=
  ⟨0, 1, 1, 0⟩

/-- The point of the given coordinates. -/
def Point.ofAffine (x y : Nat) : Point :=
  ⟨x, y, 1, x * y % prime⟩

/-- The base point. -/
def base : Point :=
  .ofAffine 0x216936d3cd6e53fec0a4e231fdd6dc5c692cc7609525a7b2c9562d608f25d51a
    0x6666666666666666666666666666666666666666666666666666666666666658

/-- The sum of two points. -/
def add (P Q : Point) : Point :=
  let lower := Modular.sub prime P.y P.x * Modular.sub prime Q.y Q.x % prime
  let upper := (P.y + P.x) * (Q.y + Q.x) % prime
  let c := P.t * Q.t * doubleD % prime
  let d := 2 * P.z * Q.z % prime
  let e := Modular.sub prime upper lower
  let f := Modular.sub prime d c
  let g := d + c
  let h := upper + lower
  ⟨e * f % prime, g * h % prime, f * g % prime, e * h % prime⟩

/-- The multiplier of a secret: the first half of its digest as a number, its lowest three bits
cleared and bit 254 its highest. -/
def multiplier (secret : List UInt8) : Nat :=
  let half := (Sha512.digest secret).take 32
  let n := Number.ofBytes half.reverse
  n % Nat.pow 2 254 / 8 * 8 + Nat.pow 2 254

/-- The public key of a secret: the ordinate of its point, whose top bit tells whether the abscissa
is odd. -/
def publicKey (secret : List UInt8) : List UInt8 :=
  let P := repeated add unit base (multiplier secret)
  let scale := Modular.inverse prime P.z
  let x := P.x * scale % prime
  let y := P.y * scale % prime
  Number.lowBytes 32 (y + x % 2 * Nat.pow 2 255)

end BoundedTls.Crypto.Ed25519
