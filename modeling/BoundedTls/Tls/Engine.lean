import BoundedTls.Files
import BoundedTls.Tls.Context

/-!
# TLS engines

What loading relies on and does not know itself: which certificates and keys an armoured text holds,
and which of them the TLS engine accepts. An engine gives these answers as functions of what it is
shown, and everything about loading holds for every engine.
-/

namespace BoundedTls.Tls

/-- The forms of private keys. -/
inductive KeyForm where
  /-- Any algorithm, which is named beside the key. -/
  | general
  | rsa
  | ellipticCurve
deriving DecidableEq, Repr

/-- A private key as it was read. -/
structure PrivateKey where
  form : KeyForm
  der : List UInt8
deriving DecidableEq, Repr

/-- A TLS engine, with its reader of armoured texts. -/
structure Engine where
  /-- All certificates of a text, in their order. -/
  certificates : Reading → Except Fault (List (List UInt8))
  /-- The first private key of a text, if there is one. -/
  privateKey : Reading → Except Fault (Option PrivateKey)
  /-- The server side of a certificate chain and its key. -/
  serverSide : List (List UInt8) → PrivateKey → Except Failure ServerConfig
  /-- The trust in one certificate. -/
  trust : List UInt8 → Except Failure TrustAnchor
  /-- The client side that trusts these authorities. -/
  clientSide : List TrustAnchor → Except Failure ClientConfig

end BoundedTls.Tls
