import BoundedTls.Files
import BoundedTls.Pem.Base64
import BoundedTls.Text.Utf8

/-!
# Armoured sections

Binary material in a text file stands in sections between a `BEGIN` line and an `END` line of the
same label. Lines end at a line feed or a carriage return. Lines outside sections do not count,
and sections with unknown labels are passed over unread. A `BEGIN` line inside a section gives the
section a new label and keeps what was gathered.
-/

namespace BoundedTls.Pem

open BoundedTls.Text

/-! ## Lines -/

/-- A byte that ends a line. -/
def isBreak (b : UInt8) : Bool :=
  b == 0x0A || b == 0x0D

/-- The lines of a text, each with the byte that ends it. -/
def lines : List UInt8 → List (List UInt8)
  | [] => []
  | b :: rest =>
    if isBreak b then [b] :: lines rest
    else
      match lines rest with
      | [] => [[b]]
      | first :: others => (b :: first) :: others

/-- The bytes that begin a section. -/
def beginMark : List UInt8 :=
  Utf8.encode "-----BEGIN "

/-- The bytes that end a section, before its label. -/
def endMark : List UInt8 :=
  Utf8.encode "-----END "

/-- The dashes behind a label. -/
def dashes : List UInt8 :=
  Utf8.encode "-----"

/-- The tail of a `BEGIN` line: dashes, spaces and the end of the line. -/
def isTrailer (b : UInt8) : Bool :=
  b == 0x2D || b == 0x20 || isBreak b

/-- The label of a `BEGIN` line. Its tail must hold exactly five dashes; the label is all that
stands before the first of them. -/
def labelOf? (line : List UInt8) : Option (List UInt8) :=
  let tail := line.reverse.takeWhile isTrailer
  if tail.count 0x2D = 5 then
    let beyond := tail.reverse.dropWhile (· != 0x2D)
    some ((line.take (line.length - beyond.length)).drop beginMark.length)
  else none

/-- The line ends a section of the given label. -/
def endsSection (label line : List UInt8) : Bool :=
  (endMark ++ label ++ dashes).isPrefixOf line

/-! ## Sections -/

/-- The kinds of sections that are read. -/
inductive Kind where
  | certificate
  | publicKey
  | rsaPrivateKey
  | privateKey
  | ecPrivateKey
  | revocationList
  | certificateRequest
  | clientHelloConfig
deriving DecidableEq, Repr

/-- The label of a kind. -/
def Kind.label : Kind → String
  | certificate => "CERTIFICATE"
  | publicKey => "PUBLIC KEY"
  | rsaPrivateKey => "RSA PRIVATE KEY"
  | privateKey => "PRIVATE KEY"
  | ecPrivateKey => "EC PRIVATE KEY"
  | revocationList => "X509 CRL"
  | certificateRequest => "CERTIFICATE REQUEST"
  | clientHelloConfig => "ECHCONFIG"

/-- All kinds. -/
def Kind.all : List Kind :=
  [certificate, publicKey, rsaPrivateKey, privateKey, ecPrivateKey, revocationList,
    certificateRequest, clientHelloConfig]

/-- The kind of a label. -/
def Kind.ofLabel? (label : List UInt8) : Option Kind :=
  all.find? fun kind => Utf8.encode kind.label == label

/-- The contents of a section. -/
structure Section where
  kind : Kind
  der : List UInt8
deriving DecidableEq, Repr

/-- Why a text cannot be read on. -/
inductive ArmourFault where
  /-- A `BEGIN` line does not end as it must. -/
  | illegalStart (line : List UInt8)
  /-- The text ends inside a section. -/
  | missingEnd (label : List UInt8)
  | base64 (fault : Base64Fault)
deriving DecidableEq, Repr

/-- Bytes as quoted text. -/
def quotedBytes (bytes : List UInt8) : String :=
  quoted (String.ofList (Utf8.decodeLossy bytes))

/-- The fault as a message. -/
def ArmourFault.message : ArmourFault → String
  | illegalStart line => "illegal section start: " ++ quotedBytes line
  | missingEnd label => "section end " ++ quotedBytes label ++ " missing"
  | base64 fault => fault.message

/-- The fault as one of reading. -/
def ArmourFault.fault (f : ArmourFault) : Fault :=
  .custom .invalidData (.text f.message)

/-- What lines hold: sections, and the fault that stops the reading behind them. -/
structure Armour where
  sections : List Section
  fault : Option ArmourFault
deriving DecidableEq, Repr

/-- Read lines, inside a section of the given label if there is one, with what its lines have
gathered. -/
def readLines (label : Option (List UInt8)) (gathered : List UInt8) :
    List (List UInt8) → Armour
  | [] => ⟨[], label.map ArmourFault.missingEnd⟩
  | line :: rest =>
    if beginMark.isPrefixOf line then
      match labelOf? line with
      | some label => readLines (some label) gathered rest
      | none => ⟨[], some (.illegalStart line)⟩
    else
      match label with
      | none => readLines none gathered rest
      | some label =>
        if endsSection label line then
          match Kind.ofLabel? label with
          | none => readLines none [] rest
          | some kind =>
            match Base64.decode gathered with
            | .ok der =>
              let armour := readLines none [] rest
              ⟨⟨kind, der⟩ :: armour.sections, armour.fault⟩
            | .error fault => ⟨[], some (.base64 fault)⟩
        else readLines (some label) (gathered ++ line) rest

/-- What a text holds: sections, and the fault that stops the reading behind them. -/
structure Contents where
  sections : List Section
  fault : Option Fault
deriving DecidableEq, Repr

/-- Read a text. Where no more of it can be read, a line without its end is lost, and a section
without its end does not count as a fault of its own. -/
def read (text : Reading) : Contents :=
  match text.fault with
  | none =>
    let armour := readLines none [] (lines text.bytes)
    ⟨armour.sections, armour.fault.map ArmourFault.fault⟩
  | some fault =>
    let whole := (lines text.bytes).filter fun line => line.getLast?.any isBreak
    let armour := readLines none [] whole
    match armour.fault with
    | none | some (.missingEnd _) => ⟨armour.sections, some fault⟩
    | some flaw => ⟨armour.sections, some flaw.fault⟩

end BoundedTls.Pem
