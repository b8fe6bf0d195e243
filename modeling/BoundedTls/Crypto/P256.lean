import BoundedTls.Crypto.Modular
import BoundedTls.Number.Bytes

/-!
# The curve P-256

Points of the curve `y² = x³ + ax + b` over a prime field, in projective coordinates. The group has
prime order, so one formula adds any two points, equal ones and the unit included.
-/

namespace BoundedTls.Crypto.P256

/-- The prime of the field. -/
def prime : Nat :=
  0xffffffff00000001000000000000000000000000ffffffffffffffffffffffff

/-- The linear coefficient. -/
def a : Nat :=
  prime - 3

/-- The constant coefficient. -/
def b : Nat :=
  0x5ac635d8aa3a93e7b3ebbd55769886bc651d06b0cc53b0f63bce3c3e27d2604b

/-- The number of points. -/
def order : Nat :=
  0xffffffff00000000ffffffffffffffffbce6faada7179e84f3b9cac2fc632551

/-- A point in projective coordinates. -/
structure Point where
  x : Nat
  y : Nat
  z : Nat
deriving DecidableEq, Repr

/-- The unit of the group, the point at infinity. -/
def unit : Point :=
  ⟨0, 1, 0⟩

/-- The generator of the group. -/
def base : Point :=
  ⟨0x6b17d1f2e12c4247f8bce6e563a440f277037d812deb33a0f4a13945d898c296,
    0x4fe342e2fe1a7f9b8ee7eb4a7c0f9e162bce33576b315ececbb6406837bf51f5, 1⟩

/-- The sum of two points. -/
def add (P Q : Point) : Point :=
  let xx := P.x * Q.x
  let yy := P.y * Q.y
  let zz := P.z * Q.z
  let xy := P.x * Q.y + Q.x * P.y
  let xz := P.x * Q.z + Q.x * P.z
  let yz := P.y * Q.z + Q.y * P.z
  let t := (a * xz + 3 * b * zz) % prime
  let u := Modular.sub prime yy t
  let v := yy + t
  let w := Modular.sub prime (a * xx + 3 * b * xz) (a * a * zz)
  let s := 3 * xx + a * zz
  ⟨Modular.sub prime (xy * u) (yz * w), (v * u + s * w) % prime, (yz * v + xy * s) % prime⟩

/-- The public key of a secret number: the point it leads to, both coordinates in full. -/
def publicKey (secret : Nat) : List UInt8 :=
  let P := repeated add unit base secret
  let scale := Modular.inverse prime P.z
  0x04 :: (Number.toBytes 32 (P.x * scale % prime) ++ Number.toBytes 32 (P.y * scale % prime))

end BoundedTls.Crypto.P256
