import BoundedTls.Number.Bytes

/-!
# Elements

Binary material is a tree of elements, each with a tag, a length and its contents. A length has
one written form only: one byte up to 127, else the bytes of the length behind their count. Lengths
of more than two bytes are not in use here.
-/

namespace BoundedTls.Der

/-! ## Tags -/

namespace Tag

/-- A truth value. -/
def boolean : UInt8 := 0x01

/-- A whole number. -/
def integer : UInt8 := 0x02

/-- Bits, after a byte that counts the unused ones. -/
def bits : UInt8 := 0x03

/-- Bytes. -/
def octets : UInt8 := 0x04

/-- The absence of a parameter. -/
def null : UInt8 := 0x05

/-- The name of an algorithm, an extension and the like. -/
def identifier : UInt8 := 0x06

/-- Elements one after the other. -/
def sequence : UInt8 := 0x30

/-- A part that the context numbers, with elements inside. -/
def part (n : UInt8) : UInt8 := 0xA0 + n

end Tag

/-! ## Reading -/

/-- An element: its tag and its contents. -/
structure Element where
  tag : UInt8
  contents : List UInt8
deriving DecidableEq, Repr

/-- A length at the front of bytes, and the bytes behind it. -/
def length? : List UInt8 → Option (Nat × List UInt8)
  | [] => none
  | first :: rest =>
    if first < 0x80 then some (first.toNat, rest)
    else if first = 0x81 then
      match rest with
      | a :: rest => if a < 0x80 then none else some (a.toNat, rest)
      | [] => none
    else if first = 0x82 then
      match rest with
      | a :: b :: rest => if a = 0 then none else some (a.toNat * 256 + b.toNat, rest)
      | _ => none
    else none

/-- The element at the front of bytes, and the bytes behind it. Tags of more than one byte are not
read. -/
def element? : List UInt8 → Option (Element × List UInt8)
  | [] => none
  | tag :: rest =>
    if tag &&& 0x1F = 0x1F then none
    else do
      let (length, rest) ← length? rest
      if rest.length < length then none
      else some (⟨tag, rest.take length⟩, rest.drop length)

/-- The contents of an element of the given tag at the front of bytes, and the bytes behind it. -/
def expect? (tag : UInt8) (bytes : List UInt8) : Option (List UInt8 × List UInt8) := do
  let (element, rest) ← element? bytes
  if element.tag = tag then some (element.contents, rest) else none

/-- The contents of an element that may be left out. -/
def optional? (tag : UInt8) (bytes : List UInt8) : Option (Option (List UInt8) × List UInt8) :=
  if bytes.head? = some tag then
    (expect? tag bytes).map fun (contents, rest) => (some contents, rest)
  else some (none, bytes)

/-- The contents of an element with nothing behind it. -/
def whole? (tag : UInt8) (bytes : List UInt8) : Option (List UInt8) := do
  let (contents, rest) ← expect? tag bytes
  if rest.isEmpty then some contents else none

/-- The elements that make up bytes, at most `bound`. -/
def elementsWithin? : Nat → List UInt8 → Option (List Element)
  | _, [] => some []
  | 0, _ :: _ => none
  | bound + 1, bytes => do
    let (element, rest) ← element? bytes
    let others ← elementsWithin? bound rest
    return element :: others

/-- The elements that make up bytes. -/
def elements? (bytes : List UInt8) : Option (List Element) :=
  elementsWithin? bytes.length bytes

/-- The contents of bits that fill whole bytes. -/
def wholeBits? : List UInt8 → Option (List UInt8)
  | 0 :: bytes => some bytes
  | _ => none

/-- The number in an integer that is not negative and has no needless zero in front. -/
def natural? : List UInt8 → Option Nat
  | [] => none
  | [a] => if a < 0x80 then some a.toNat else none
  | a :: b :: rest =>
    if a = 0 then
      if b < 0x80 then none else some (Number.ofBytes (b :: rest))
    else if a < 0x80 then some (Number.ofBytes (a :: b :: rest))
    else none

/-- A natural number at the front of bytes, and the bytes behind it. -/
def expectNatural? (bytes : List UInt8) : Option (Nat × List UInt8) := do
  let (contents, rest) ← expect? Tag.integer bytes
  let n ← natural? contents
  return (n, rest)

/-! ## Writing -/

/-- The written form of a length. -/
def encodeLength (n : Nat) : List UInt8 :=
  if n < 128 then [UInt8.ofNat n]
  else if n < 256 then [0x81, UInt8.ofNat n]
  else 0x82 :: Number.toBytes 2 n

/-- The written form of an element. -/
def encode (tag : UInt8) (contents : List UInt8) : List UInt8 :=
  tag :: (encodeLength contents.length ++ contents)

/-- The written form of a natural number: as few bytes as keep the top bit clear. -/
def encodeNatural (n : Nat) : List UInt8 :=
  encode Tag.integer (Number.toBytes (Number.bitLength n / 8 + 1) n)

end BoundedTls.Der
