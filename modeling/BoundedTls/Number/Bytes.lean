/-!
# Numbers as bytes

Natural numbers in base 256, with the most or the least significant byte first.
-/

namespace BoundedTls.Number

/-- The number that bytes denote, most significant first. -/
def ofBytes (bytes : List UInt8) : Nat :=
  bytes.foldl (fun n b => n * 256 + b.toNat) 0

/-- The lowest `count` bytes of a number, least significant first. -/
def lowBytes : Nat → Nat → List UInt8
  | 0, _ => []
  | count + 1, n => UInt8.ofNat n :: lowBytes count (n / 256)

/-- The lowest `count` bytes of a number, most significant first. -/
def toBytes (count n : Nat) : List UInt8 :=
  (lowBytes count n).reverse

/-- How many binary digits a number has. -/
def bitLength (n : Nat) : Nat :=
  if n = 0 then 0 else n.log2 + 1

end BoundedTls.Number
