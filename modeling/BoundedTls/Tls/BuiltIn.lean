import BoundedTls.Pem.Section
import BoundedTls.Tls.CertificateEncoding
import BoundedTls.Tls.Material
import BoundedTls.Tls.PrivateKey

/-!
# The built-in engine

An engine of this library's own. It reads armoured sections, certificates of the third version, and
keys for RSA, for the curve P-256 and for Ed25519, and it compares a key with its certificate.
-/

namespace BoundedTls.Tls

namespace Engine

/-- The form of the private keys in a kind of section. -/
def formOf? : Pem.Kind → Option KeyForm
  | .privateKey => some .general
  | .rsaPrivateKey => some .rsa
  | .ecPrivateKey => some .ellipticCurve
  | _ => none

/-- The certificates of a text. Every section must be readable. -/
def certificatesIn (text : Reading) : Except Fault (List (List UInt8)) :=
  let contents := Pem.read text
  match contents.fault with
  | some fault => .error fault
  | none =>
    .ok ((contents.sections.filter fun s => s.kind == .certificate).map Pem.Section.der)

/-- The first private key of a text. What stands behind it does not matter. -/
def privateKeyIn (text : Reading) : Except Fault (Option PrivateKey) :=
  let contents := Pem.read text
  let keys := contents.sections.filterMap fun s =>
    (formOf? s.kind).map fun form => PrivateKey.mk form s.der
  match keys, contents.fault with
  | key :: _, _ => .ok (some key)
  | [], some fault => .error fault
  | [], none => .ok none

/-- The server side of a chain and a key: the key must be usable, and it must belong to the first
certificate. Later certificates that cannot be read are of no use to a client and are left out. -/
def matchedServer (chain : List (List UInt8)) (key : PrivateKey) : Except Failure ServerConfig := do
  let publicKey ← match key.publicKey? with
    | some publicKey => .ok publicKey
    | none => .error .unusableKey
  let leaf ← (Certificate.ofDer (chain.headD [])).mapError .invalidCertificate
  if leaf.publicKey ≠ publicKey then throw .keyMismatch
  let others := chain.tail.filterMap fun der => (Certificate.ofDer der).toOption
  return ⟨leaf :: others, {}⟩

/-- The trust in one certificate. One of another version is as good as unreadable. -/
def trustIn (der : List UInt8) : Except Failure TrustAnchor :=
  match Certificate.ofDer der with
  | .ok c => .ok c.anchor
  | .error (.defective .unsupportedVersion) => .error (.invalidCertificate .badEncoding)
  | .error fault => .error (.invalidCertificate fault)

/-- The engine of this library. -/
def builtIn : Engine where
  certificates := certificatesIn
  privateKey := privateKeyIn
  serverSide := matchedServer
  trust := trustIn
  clientSide := fun anchors => .ok ⟨.anchors anchors, {}⟩

end Engine

/-! ## Contexts of the built-in engine -/

namespace Context

/-- The context of a server from the texts of its chain and its key. -/
def ofServerTexts (chain key : List UInt8) : Except MaterialError Context :=
  Engine.builtIn.ofServerTexts chain key

/-- The context of a server from the files of its chain and its key. -/
def loadServer (files : Files) (chainPath keyPath : String) : Except MaterialError Context :=
  Engine.builtIn.loadServer files chainPath keyPath

/-- The context of a client from the file of the authorities that it trusts. -/
def loadClient (files : Files) (path name : String) : Except MaterialError Context :=
  Engine.builtIn.loadClient files path name

/-- The context with every role that the settings provide for. -/
def ofSettings (files : Files) (s : Config.TlsSettings) : Except MaterialError Context :=
  Engine.builtIn.ofSettings files s

end Context

end BoundedTls.Tls
