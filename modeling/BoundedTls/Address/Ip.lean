import BoundedTls.Text.Numeral

/-!
# IP addresses

IPv4 and IPv6 addresses in their usual text forms. Each reader takes an address off the front of
a text and leaves what follows.
-/

namespace BoundedTls.Address

open BoundedTls.Text

/-- A reader takes a value off the front of a text, or refuses. -/
abbrev Reader (α : Type) := List Char → Option (α × List Char)

/-- The characters at the front that are digits of a base up to sixteen, as values. -/
def takeDigits (base : Nat) : List Char → List Nat × List Char
  | [] => ([], [])
  | c :: rest =>
    match hexValue? c with
    | some d =>
      if d < base then
        let (digits, after) := takeDigits base rest
        (d :: digits, after)
      else ([], c :: rest)
    | none => ([], c :: rest)

/-- A number of at least one digit and at most `limit`. -/
def number (base limit : Nat) : Reader Nat := fun s =>
  let (digits, rest) := takeDigits base s
  if digits.isEmpty || limit < digits.length then none else some (ofDigits base digits, rest)

/-- A number of any length that does not exceed `bound`; leading zeros are allowed. -/
def boundedNumber (bound : Nat) : Reader Nat := fun s =>
  let (digits, rest) := takeDigits 10 s
  let n := ofDigits 10 digits
  if digits.isEmpty || bound < n then none else some (n, rest)

/-- The one character `c`. -/
def literal (c : Char) : Reader Unit
  | d :: rest => if c = d then some ((), rest) else none
  | [] => none

/-! ## IPv4 -/

/-- An IPv4 address: four bytes. -/
structure Ipv4 where
  a : UInt8
  b : UInt8
  c : UInt8
  d : UInt8
deriving DecidableEq, Repr

namespace Ipv4

/-- The four bytes. -/
def octets (ip : Ipv4) : List UInt8 :=
  [ip.a, ip.b, ip.c, ip.d]

/-- One of the four parts: a number below 256 of at most three digits without a leading zero. -/
def readOctet : Reader UInt8 := fun s =>
  match number 10 3 s with
  | some (n, rest) =>
    let leadingZero := s.head? == some '0' && s.length - rest.length > 1
    if n < 256 && !leadingZero then some (UInt8.ofNat n, rest) else none
  | none => none

/-- Four parts with dots between them. -/
def read : Reader Ipv4 := fun s => do
  let (a, s) ← readOctet s
  let (_, s) ← literal '.' s
  let (b, s) ← readOctet s
  let (_, s) ← literal '.' s
  let (c, s) ← readOctet s
  let (_, s) ← literal '.' s
  let (d, s) ← readOctet s
  return (⟨a, b, c, d⟩, s)

/-- The dotted form. -/
def render (ip : Ipv4) : String :=
  ".".intercalate (ip.octets.map fun o => numeral o.toNat)

/-- The two groups of an IPv6 address that hold this address. -/
def groups (ip : Ipv4) : List Nat :=
  [ip.a.toNat * 256 + ip.b.toNat, ip.c.toNat * 256 + ip.d.toNat]

end Ipv4

/-! ## IPv6 -/

/-- An IPv6 address: eight groups of sixteen bits. -/
structure Ipv6 where
  groups : Vector UInt16 8
deriving DecidableEq, Repr

namespace Ipv6

/-- The address of a list of groups, if there are eight. -/
def ofGroups? (groups : List Nat) : Option Ipv6 :=
  let words := (groups.map UInt16.ofNat).toArray
  if h : words.size = 8 then some ⟨⟨words, h⟩⟩ else none

/-- A colon before every group but the first. -/
def separator (first : Bool) : Reader Unit := fun s =>
  if first then some ((), s) else literal ':' s

/-- At most `room` groups. Where two or more still fit, they may be written as an IPv4 address,
which ends the sequence; the flag tells whether it did. -/
def readGroups (first : Bool) : Nat → List Char → List Nat × Bool × List Char
  | 0, s => ([], false, s)
  | room + 1, s =>
    let embedded := if room = 0 then none else (separator first s).bind fun (_, t) => Ipv4.read t
    match embedded with
    | some (ip, rest) => (ip.groups, true, rest)
    | none =>
      match (separator first s).bind fun (_, t) => number 16 4 t with
      | some (group, rest) =>
        let (groups, ipv4, after) := readGroups false room rest
        (group :: groups, ipv4, after)
      | none => ([], false, s)

/-- Eight groups, or fewer on either side of a double colon that stands for at least one group of
zeros. An embedded IPv4 address may only end the text. -/
def read : Reader Ipv6 := fun s => do
  let (head, ipv4, rest) := readGroups true 8 s
  if head.length = 8 then
    return (← ofGroups? head, rest)
  if ipv4 then none else
  let (_, rest) ← literal ':' rest
  let (_, rest) ← literal ':' rest
  let (tail, _, rest) := readGroups true (7 - head.length) rest
  let zeros := List.replicate (8 - head.length - tail.length) 0
  return (← ofGroups? (head ++ zeros ++ tail), rest)

/-- The longest run of zero groups, the first of several: where it starts and its length. -/
def longestZeros (groups : List Nat) : Nat × Nat :=
  let runFrom (i : Nat) : Nat := ((groups.drop i).takeWhile (· == 0)).length
  (List.range groups.length).foldl
    (fun best i => if best.2 < runFrom i then (i, runFrom i) else best) (0, 0)

/-- Groups in hexadecimal with colons between them. -/
def joinGroups (groups : List Nat) : String :=
  ":".intercalate (groups.map fun g => String.ofList (Nat.toDigits 16 g))

/-- The canonical form: the longest run of two or more zero groups is written as a double colon,
and an IPv4-mapped address ends in dotted form. -/
def render (ip : Ipv6) : String :=
  let groups := ip.groups.toList.map UInt16.toNat
  match groups with
  | [0, 0, 0, 0, 0, 0xffff, x, y] =>
    "::ffff:" ++ ".".intercalate
      ([x / 256, x % 256, y / 256, y % 256].map numeral)
  | _ =>
    let (start, length) := longestZeros groups
    if 1 < length then
      joinGroups (groups.take start) ++ "::" ++ joinGroups (groups.drop (start + length))
    else joinGroups groups

/-- The sixteen bytes. -/
def octets (ip : Ipv6) : List Nat :=
  ip.groups.toList.flatMap fun g => [g.toNat / 256, g.toNat % 256]

end Ipv6

/-- An IP address of either family. -/
inductive Ip where
  | v4 (ip : Ipv4)
  | v6 (ip : Ipv6)
deriving DecidableEq, Repr

namespace Ip

/-- The address in its text form. -/
def render : Ip → String
  | v4 ip => ip.render
  | v6 ip => ip.render

/-- The whole text is an address. -/
def ofText? (s : List Char) : Option Ip :=
  match Ipv4.read s with
  | some (ip, []) => some (v4 ip)
  | _ =>
    match Ipv6.read s with
    | some (ip, []) => some (v6 ip)
    | _ => none

/-- Bytes taken two at a time as numbers; a last odd byte is left out. -/
def groupsOf : List UInt8 → List Nat
  | high :: low :: rest => (high.toNat * 256 + low.toNat) :: groupsOf rest
  | _ => []

/-- The address of four or sixteen bytes. -/
def ofBytes? (bytes : List UInt8) : Option Ip :=
  match bytes with
  | [a, b, c, d] => some (v4 ⟨a, b, c, d⟩)
  | _ => if bytes.length = 16 then (Ipv6.ofGroups? (groupsOf bytes)).map v6 else none

end Ip

/-- The address by which a host speaks to itself. -/
def localhost : Ip :=
  .v4 ⟨127, 0, 0, 1⟩

end BoundedTls.Address
