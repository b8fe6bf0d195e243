import BoundedTls.Crypto.Ed25519
import BoundedTls.Crypto.P256
import BoundedTls.Der.Basic
import BoundedTls.Tls.Engine

/-!
# Keys that belong together

A private key comes in one of three forms: with its algorithm around it, bare for RSA, or bare for
an elliptic curve. A key is usable if it has the form that was promised and its parts agree; then it
gives the public key in the form in which certificates hold it, so that a key can be compared with a
certificate byte by byte.
-/

namespace BoundedTls.Tls

open BoundedTls.Der BoundedTls.Crypto

namespace PrivateKey

/-! ## Algorithms -/

/-- The name of the RSA algorithm, with its absent parameter. -/
def rsaAlgorithm : List UInt8 :=
  encode Tag.identifier [0x2A, 0x86, 0x48, 0x86, 0xF7, 0x0D, 0x01, 0x01, 0x01] ++ encode Tag.null []

/-- The name of the curve P-256. -/
def curveName : List UInt8 :=
  encode Tag.identifier [0x2A, 0x86, 0x48, 0xCE, 0x3D, 0x03, 0x01, 0x07]

/-- The name of keys on the curve P-256. -/
def curveAlgorithm : List UInt8 :=
  encode Tag.identifier [0x2A, 0x86, 0x48, 0xCE, 0x3D, 0x02, 0x01] ++ curveName

/-- The name of the Ed25519 algorithm. -/
def edwardsAlgorithm : List UInt8 :=
  encode Tag.identifier [0x2B, 0x65, 0x70]

/-- A public key with its algorithm, as the contents of a certificate's element. -/
def publicKeyInfo (algorithm key : List UInt8) : List UInt8 :=
  encode Tag.sequence algorithm ++ encode Tag.bits (0 :: key)

/-! ## RSA -/

/-- The numbers of an RSA key. -/
structure RsaNumbers where
  modulus : Nat
  publicExponent : Nat
  privateExponent : Nat
  prime1 : Nat
  prime2 : Nat
  exponent1 : Nat
  exponent2 : Nat
  coefficient : Nat
deriving DecidableEq, Repr

/-- The numbers at the front of bytes, `count` of them, with nothing behind them. -/
def naturals? : Nat → List UInt8 → Option (List Nat)
  | 0, bytes => if bytes.isEmpty then some [] else none
  | count + 1, bytes => do
    let (n, rest) ← expectNatural? bytes
    let others ← naturals? count rest
    return n :: others

/-- The numbers of an RSA key in its bare form, whose version is zero. -/
def rsaNumbers? (der : List UInt8) : Option RsaNumbers := do
  let contents ← whole? Tag.sequence der
  match ← naturals? 9 contents with
  | [0, n, e, d, p, q, dp, dq, qi] => some ⟨n, e, d, p, q, dp, dq, qi⟩
  | _ => none

/-- The numbers fit together and are large enough. -/
def RsaNumbers.agree (k : RsaNumbers) : Bool :=
  let size := Number.bitLength k.modulus
  2048 ≤ size && size ≤ 4096 && size % 2 == 0
    && Number.bitLength k.prime1 == size / 2 && Number.bitLength k.prime2 == size / 2
    && k.prime1 * k.prime2 == k.modulus
    && 65537 ≤ k.publicExponent && k.publicExponent % 2 == 1
    && Number.bitLength k.publicExponent ≤ 33
    && k.privateExponent % 2 == 1 && k.privateExponent < k.modulus
    && size / 2 < Number.bitLength k.privateExponent
    && k.exponent1 % 2 == 1 && k.exponent1 < k.prime1
    && k.exponent2 % 2 == 1 && k.exponent2 < k.prime2
    && k.coefficient < k.prime1 && k.coefficient * k.prime2 % k.prime1 == 1

/-- The public key of an RSA key in its bare form. -/
def rsaPublicKey? (der : List UInt8) : Option (List UInt8) := do
  let numbers ← rsaNumbers? der
  if numbers.agree then
    let key := encode Tag.sequence
      (encodeNatural numbers.modulus ++ encodeNatural numbers.publicExponent)
    some (publicKeyInfo rsaAlgorithm key)
  else none

/-! ## Elliptic curves -/

/-- The public key of a key on the curve P-256 in its bare form, whose version is one. The form
repeats the public key, which must be the one that belongs to the secret. -/
def curvePublicKey? (der : List UInt8) : Option (List UInt8) := do
  let contents ← whole? Tag.sequence der
  let (version, rest) ← expectNatural? contents
  let (secret, rest) ← expect? Tag.octets rest
  let (parameters, rest) ← optional? (Tag.part 0) rest
  let named ← whole? (Tag.part 1) rest
  let bits ← whole? Tag.bits named
  let key ← wholeBits? bits
  let n := Number.ofBytes secret
  if version = 1 && parameters.all (· == curveName) && secret.length = 32 && 0 < n
      && n < P256.order && P256.publicKey n = key then
    some (publicKeyInfo curveAlgorithm key)
  else none

/-! ## Keys with their algorithm -/

/-- The key inside the general form: its algorithm, its bytes and, from version one on, its public
key. -/
structure Wrapped where
  version : Nat
  algorithm : List UInt8
  key : List UInt8
  publicKey : Option (List UInt8)
deriving DecidableEq, Repr

/-- Read the general form. -/
def wrapped? (der : List UInt8) : Option Wrapped := do
  let contents ← whole? Tag.sequence der
  let (version, rest) ← expectNatural? contents
  let (algorithm, rest) ← expect? Tag.sequence rest
  let (key, rest) ← expect? Tag.octets rest
  let (_, rest) ← optional? (Tag.part 0) rest
  if version = 0 then
    if rest.isEmpty then some ⟨version, algorithm, key, none⟩ else none
  else if version = 1 then do
    let named ← whole? (Tag.part 1) rest
    let bits ← whole? Tag.bits named
    let publicKey ← wholeBits? bits
    return ⟨version, algorithm, key, some publicKey⟩
  else none

/-- The public key of an Ed25519 key inside the general form. -/
def edwardsPublicKey? (w : Wrapped) : Option (List UInt8) := do
  let secret ← whole? Tag.octets w.key
  let key := Ed25519.publicKey secret
  if secret.length = 32 && w.publicKey.all (· == key) then
    some (publicKeyInfo edwardsAlgorithm key)
  else none

/-- The public key of a key in the general form. Only Ed25519 has a version one. -/
def generalPublicKey? (der : List UInt8) : Option (List UInt8) := do
  let w ← wrapped? der
  if w.algorithm = edwardsAlgorithm then edwardsPublicKey? w
  else if w.version ≠ 0 then none
  else if w.algorithm = rsaAlgorithm then rsaPublicKey? w.key
  else if w.algorithm = curveAlgorithm then curvePublicKey? w.key
  else none

/-- The public key of a private key, as certificates hold it; nothing for a key that is not
usable. -/
def publicKey? (k : PrivateKey) : Option (List UInt8) :=
  match k.form with
  | .general => generalPublicKey? k.der
  | .rsa => rsaPublicKey? k.der
  | .ellipticCurve => curvePublicKey? k.der

end PrivateKey

end BoundedTls.Tls
