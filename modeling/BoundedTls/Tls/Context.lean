import BoundedTls.Connection.Phase
import BoundedTls.Tls.Certificate

/-!
# TLS contexts

What a connection needs for its handshake: a server's certificate chain, a client's trust and the
name it expects, or both.
-/

namespace BoundedTls.Tls

open BoundedTls.Address

/-- The protocol versions that a side speaks. -/
structure Versions where
  tls12 : Bool := true
  tls13 : Bool := true
deriving DecidableEq, Repr

/-- How a client judges the certificate of a server. -/
inductive Verifier where
  /-- By the authorities that it trusts. -/
  | anchors (trusted : List TrustAnchor)
  /-- Everything is accepted. -/
  | acceptsAny
  /-- The judgement itself breaks down with this text. -/
  | panics (text : String)
deriving DecidableEq, Repr

/-- The server side of a context. -/
structure ServerConfig where
  chain : List Certificate
  versions : Versions := {}
deriving DecidableEq, Repr

/-- The client side of a context. -/
structure ClientConfig where
  verifier : Verifier
  versions : Versions := {}
deriving DecidableEq, Repr

/-- Material for one or both roles. A client side comes with the name to expect. -/
structure Context where
  server : Option ServerConfig := none
  client : Option (ClientConfig × ServerName) := none
deriving DecidableEq, Repr

namespace Context

/-- The context can take this role in a handshake. -/
def supports (c : Context) : Role → Bool
  | .server => c.server.isSome
  | .client => c.client.isSome

/-- The context with its roles, for diagnostics. -/
def describe (c : Context) : String :=
  let server := if c.server.isSome then "true" else "false"
  let client :=
    match c.client with
    | some (_, name) => "Some(" ++ name.describe ++ ")"
    | none => "None"
  "TlsContext \x7b server: " ++ server ++ ", client: " ++ client ++ " \x7d"

end Context

end BoundedTls.Tls
