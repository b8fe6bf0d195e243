import BoundedTls.Der.Basic
import BoundedTls.Text.Utf8
import BoundedTls.Tls.Certificate

/-!
# Certificates in binary form

A certificate is a signed body, and the body says who the subject is. The reader checks the form of
the whole certificate, but keeps only what a verdict needs: the names of subject and issuer, the
public key, the names it is made out to, and whether it belongs to an authority. The signature is
not verified.
-/

namespace BoundedTls.Tls

open BoundedTls.Der BoundedTls.Text BoundedTls.Address

/-! ## Extensions -/

/-- An extension of a certificate. -/
structure Extension where
  identifier : List UInt8
  /-- A reader that does not know the extension must refuse the certificate. -/
  critical : Bool
  value : List UInt8
deriving DecidableEq, Repr

namespace Extension

/-- The extension that the contents of an element describe. -/
def ofContents? (bytes : List UInt8) : Option Extension := do
  let (identifier, bytes) ← expect? Tag.identifier bytes
  let (flag, bytes) ← optional? Tag.boolean bytes
  let critical ← match flag with
    | none => some false
    | some [0x00] => some false
    | some [0xFF] => some true
    | some _ => none
  let value ← whole? Tag.octets bytes
  return ⟨identifier, critical, value⟩

/-- The identifiers of the standard extensions, without their last byte. -/
def standard : List UInt8 :=
  [0x55, 0x1D]

/-- How a key may be used. -/
def keyUsage : UInt8 := 15

/-- The names that a certificate is made out to. -/
def alternativeNames : UInt8 := 17

/-- Whether the subject is an authority. -/
def basicConstraints : UInt8 := 19

/-- The last bytes of the identifiers that are known. -/
def known : List UInt8 :=
  [keyUsage, alternativeNames, basicConstraints, 30, 31, 37]

/-- The last byte of a known identifier. -/
def known? (e : Extension) : Option UInt8 :=
  known.find? fun last => e.identifier == standard ++ [last]

end Extension

/-- The extensions keep the rules: what must be known is known, what is known comes once, and all
but the use of the key has a list as its value. -/
def checkExtensions : List UInt8 → List Extension → Except CertificateFault Unit
  | _, [] => .ok ()
  | seen, e :: rest =>
    match e.known? with
    | none => if e.critical then .error (.defective .unknownCritical) else checkExtensions seen rest
    | some last =>
      if last ∈ seen then .error (.defective .repeatedExtension)
      else if last ≠ Extension.keyUsage ∧ (whole? Tag.sequence e.value).isNone then
        .error .badEncoding
      else checkExtensions (last :: seen) rest

/-- The contents of a known extension whose value is a list. -/
def extensionList (extensions : List Extension) (last : UInt8) : List UInt8 :=
  match extensions.find? fun e => e.known? == some last with
  | some e => (whole? Tag.sequence e.value).getD []
  | none => []

/-- The name that an element holds. -/
def PresentedName.ofElement? (e : Element) : Option PresentedName :=
  if e.tag = 0x82 then some (.dns (String.ofList (Utf8.decodeLossy e.contents)))
  else if e.tag = 0x87 then (Ip.ofBytes? e.contents).map PresentedName.ip
  else none

/-- The names among the extensions. -/
def presentedNames (extensions : List Extension) : List PresentedName :=
  let elements := (elements? (extensionList extensions Extension.alternativeNames)).getD []
  elements.filterMap PresentedName.ofElement?

/-- The extensions say that the subject is an authority. -/
def saysAuthority (extensions : List Extension) : Bool :=
  match optional? Tag.boolean (extensionList extensions Extension.basicConstraints) with
  | some (some [0xFF], _) => true
  | _ => false

/-! ## Certificates -/

/-- A part of a certificate that cannot be read makes all of it unreadable. -/
def readable {α : Type} : Option α → Except CertificateFault α
  | some a => .ok a
  | none => .error .badEncoding

/-- The version of a certificate is the third, whose number is two. -/
def expectVersion (bytes : List UInt8) : Except CertificateFault (List UInt8) :=
  match expect? (Tag.part 0) bytes with
  | none => .error (.defective .unsupportedVersion)
  | some (contents, rest) =>
    match expectNatural? contents with
    | none => .error .badEncoding
    | some (2, []) => .ok rest
    | some _ => .error (.defective .unsupportedVersion)

/-- The extensions at the end of the body of a certificate. -/
def readExtensions (bytes : List UInt8) : Except CertificateFault (List Extension) :=
  if bytes.isEmpty then .ok []
  else do
    let part ← readable (whole? (Tag.part 3) bytes)
    let items ← readable (whole? Tag.sequence part)
    let elements ← readable (elements? items)
    let extensions ← readable (elements.mapM fun e =>
      if e.tag = Tag.sequence then Extension.ofContents? e.contents else none)
    checkExtensions [] extensions
    return extensions

/-- The certificate that a body describes; its signature is made with the given algorithm. -/
def Certificate.ofBody (algorithm bytes : List UInt8) : Except CertificateFault Certificate := do
  let bytes ← expectVersion bytes
  let (_, bytes) ← readable (expect? Tag.integer bytes)
  let (signature, bytes) ← readable (expect? Tag.sequence bytes)
  if signature ≠ algorithm then throw (.defective .algorithmMismatch)
  let (issuer, bytes) ← readable (expect? Tag.sequence bytes)
  let (_, bytes) ← readable (expect? Tag.sequence bytes)
  let (subject, bytes) ← readable (expect? Tag.sequence bytes)
  let (publicKey, bytes) ← readable (expect? Tag.sequence bytes)
  let extensions ← readExtensions bytes
  return ⟨subject, issuer, publicKey, presentedNames extensions, saysAuthority extensions⟩

/-- The certificate in binary form. -/
def Certificate.ofDer (der : List UInt8) : Except CertificateFault Certificate := do
  let signed ← readable (whole? Tag.sequence der)
  let (body, rest) ← readable (expect? Tag.sequence signed)
  let (algorithm, rest) ← readable (expect? Tag.sequence rest)
  let bits ← readable (whole? Tag.bits rest)
  let _ ← readable (wholeBits? bits)
  Certificate.ofBody algorithm body

end BoundedTls.Tls
