/-!
# UTF-8

Bytes read as text. A byte sequence falls into units, each a character or a broken part; a broken
part is the longest run of bytes that could still have begun a character. The strict reading
accepts a sequence without broken parts, the lenient one writes U+FFFD for each of them.
-/

namespace BoundedTls.Text.Utf8

/-- One unit at the front of a byte sequence: its character, if it is whole, and its length. -/
structure Front where
  char : Option Char
  size : Nat

/-- A byte that continues a character. -/
def isContinuation (b : UInt8) : Bool :=
  0x80 ≤ b && b ≤ 0xBF

/-- The low six bits of a continuation byte. -/
def payload (b : UInt8) : Nat :=
  b.toNat % 64

/-- The bytes allowed after a first byte of three- and four-byte characters: surrogates, overlong
forms and values above U+10FFFF are refused at the second byte. -/
def secondAllowed (first second : UInt8) : Bool :=
  if first = 0xE0 then 0xA0 ≤ second && second ≤ 0xBF
  else if first = 0xED then 0x80 ≤ second && second ≤ 0x9F
  else if first = 0xF0 then 0x90 ≤ second && second ≤ 0xBF
  else if first = 0xF4 then 0x80 ≤ second && second ≤ 0x8F
  else isContinuation second

/-- The unit that starts with the byte `first`. -/
def front (first : UInt8) (rest : List UInt8) : Front :=
  let high := first.toNat
  if high < 0x80 then ⟨some (Char.ofNat high), 1⟩
  else if 0xC2 ≤ high && high ≤ 0xDF then
    match rest with
    | b :: _ =>
      if isContinuation b then ⟨some (Char.ofNat ((high - 0xC0) * 64 + payload b)), 2⟩
      else ⟨none, 1⟩
    | [] => ⟨none, 1⟩
  else if 0xE0 ≤ high && high ≤ 0xEF then
    match rest with
    | b :: tail =>
      if secondAllowed first b then
        match tail with
        | c :: _ =>
          if isContinuation c then
            ⟨some (Char.ofNat (((high - 0xE0) * 64 + payload b) * 64 + payload c)), 3⟩
          else ⟨none, 2⟩
        | [] => ⟨none, 2⟩
      else ⟨none, 1⟩
    | [] => ⟨none, 1⟩
  else if 0xF0 ≤ high && high ≤ 0xF4 then
    match rest with
    | b :: tail =>
      if secondAllowed first b then
        match tail with
        | c :: tail =>
          if isContinuation c then
            match tail with
            | d :: _ =>
              if isContinuation d then
                let code := (((high - 0xF0) * 64 + payload b) * 64 + payload c) * 64 + payload d
                ⟨some (Char.ofNat code), 4⟩
              else ⟨none, 3⟩
            | [] => ⟨none, 3⟩
          else ⟨none, 2⟩
        | [] => ⟨none, 2⟩
      else ⟨none, 1⟩
    | [] => ⟨none, 1⟩
  else ⟨none, 1⟩

/-- The units of a byte sequence in order, `none` for a broken part, after `skip` more bytes of the
unit before. -/
def unitsAfter : Nat → List UInt8 → List (Option Char)
  | _, [] => []
  | skip + 1, _ :: rest => unitsAfter skip rest
  | 0, first :: rest =>
    let unit := front first rest
    unit.char :: unitsAfter (unit.size - 1) rest

/-- The units of a byte sequence in order, `none` for a broken part. -/
def units (bytes : List UInt8) : List (Option Char) :=
  unitsAfter 0 bytes

/-- The text of a byte sequence without broken parts. -/
def decode? (bytes : List UInt8) : Option (List Char) :=
  (units bytes).mapM id

/-- The text of a byte sequence, each broken part replaced by U+FFFD. -/
def decodeLossy (bytes : List UInt8) : List Char :=
  (units bytes).map fun unit => unit.getD '\uFFFD'

/-- The bytes of a text. -/
def encode (s : String) : List UInt8 :=
  s.toUTF8.toList

end BoundedTls.Text.Utf8
