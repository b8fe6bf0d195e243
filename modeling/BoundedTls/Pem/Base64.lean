import BoundedTls.Number.Bytes
import BoundedTls.Text.Numeral

/-!
# Base64

Bytes written with 64 letters, four letters for three bytes. White space between the letters does
not count. The letters are taken in groups of eight; padding may end the last group only, where it
fills up four letters, but it may also be left out. Bits of the last letter that belong to no byte
are not looked at.
-/

namespace BoundedTls.Pem

/-- Why a text is not Base64. -/
inductive Base64Fault where
  | invalidCharacter (byte : UInt8)
  /-- Letters follow the padding. -/
  | prematurePadding
  /-- The last letters do not make whole bytes. -/
  | invalidTrailingPadding
deriving DecidableEq, Repr

/-- The fault as a message. -/
def Base64Fault.message : Base64Fault → String
  | invalidCharacter byte => "InvalidCharacter(" ++ Text.numeral byte.toNat ++ ")"
  | prematurePadding => "PrematurePadding"
  | invalidTrailingPadding => "InvalidTrailingPadding"

namespace Base64

/-- A letter of the alphabet or a filler. -/
inductive Symbol where
  | value (n : Nat)
  | pad
deriving DecidableEq, Repr

/-- The symbol is a filler. -/
def Symbol.isPad (s : Symbol) : Bool :=
  s == .pad

/-- The six bits of a symbol. -/
def Symbol.bits : Symbol → Nat
  | value n => n
  | pad => 0

/-- A byte that does not count: a space or a control character that moves on. -/
def isSpace (b : UInt8) : Bool :=
  b == 0x20 || (0x09 ≤ b && b ≤ 0x0D)

/-- The symbol that a byte stands for. -/
def symbol? (b : UInt8) : Option Symbol :=
  let n := b.toNat
  if 65 ≤ n && n ≤ 90 then some (.value (n - 65))
  else if 97 ≤ n && n ≤ 122 then some (.value (n - 71))
  else if 48 ≤ n && n ≤ 57 then some (.value (n + 4))
  else if n = 43 then some (.value 62)
  else if n = 47 then some (.value 63)
  else if n = 61 then some .pad
  else none

/-- The bytes of symbols whose bits come one after the other; bits left over at the end are
dropped. -/
def unpack (symbols : List Symbol) : List UInt8 :=
  let count := symbols.length * 6 / 8
  let bits := symbols.foldl (fun n s => n * 64 + s.bits) 0
  Number.toBytes count (bits >>> (symbols.length * 6 - count * 8))

/-- The bytes of the last four symbols or fewer. -/
def lastFour : List Symbol → Except Base64Fault (List UInt8)
  | [] => .ok []
  | [.value a, .value b] | [.value a, .value b, .pad, .pad] => .ok (unpack [.value a, .value b])
  | [.value a, .value b, .value c] | [.value a, .value b, .value c, .pad] =>
    .ok (unpack [.value a, .value b, .value c])
  | [.value a, .value b, .value c, .value d] =>
    .ok (unpack [.value a, .value b, .value c, .value d])
  | _ => .error .invalidTrailingPadding

/-- The bytes of the last group of symbols. -/
def lastGroup (group : List Symbol) : Except Base64Fault (List UInt8) :=
  if 4 < group.length then
    if (group.take 4).any Symbol.isPad then .error .prematurePadding
    else (lastFour (group.drop 4)).map (unpack (group.take 4) ++ ·)
  else lastFour group

/-- The bytes of a text, after the symbols of an unfinished group. -/
def decodeFrom (group : List Symbol) : List UInt8 → Except Base64Fault (List UInt8)
  | [] => lastGroup group
  | b :: rest =>
    if isSpace b then decodeFrom group rest
    else
      match symbol? b with
      | none => .error (.invalidCharacter b)
      | some s =>
        if group.length < 8 then decodeFrom (group ++ [s]) rest
        else if group.any Symbol.isPad then .error .prematurePadding
        else (decodeFrom [s] rest).map (unpack group ++ ·)

/-- The bytes of a text. -/
def decode (bytes : List UInt8) : Except Base64Fault (List UInt8) :=
  decodeFrom [] bytes

end Base64

end BoundedTls.Pem
