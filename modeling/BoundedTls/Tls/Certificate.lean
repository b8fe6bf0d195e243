import BoundedTls.Tls.Failure

/-!
# Certificates and trust

What a peer's certificate says, whom a client trusts, and the verdict of the one on the other.
Names of subjects and issuers are compared as bytes. An issuer is recognised by its name; the
arithmetic of signatures is not part of this library.
-/

namespace BoundedTls.Tls

open BoundedTls.Address

/-- A name that a certificate is made out to. -/
inductive PresentedName where
  /-- A DNS name, whose first label may be an asterisk. -/
  | dns (pattern : String)
  | ip (address : Ip)
deriving DecidableEq, Repr

/-- The name with its kind. -/
def PresentedName.describe : PresentedName → String
  | dns pattern => "DnsName(" ++ Text.quoted pattern ++ ")"
  | ip address => "IpAddress(" ++ address.render ++ ")"

/-- What a certificate says. -/
structure Certificate where
  subject : List UInt8
  issuer : List UInt8
  /-- The public key with its algorithm. -/
  publicKey : List UInt8
  names : List PresentedName
  /-- The certificate belongs to an authority, not to a server. -/
  isAuthority : Bool
deriving DecidableEq, Repr

/-- An authority that a client trusts. -/
structure TrustAnchor where
  subject : List UInt8
  publicKey : List UInt8
deriving DecidableEq, Repr

/-- The trust that a certificate stands for. -/
def Certificate.anchor (c : Certificate) : TrustAnchor :=
  ⟨c.subject, c.publicKey⟩

/-! ## Names -/

/-- A DNS name without the dot that may end it, in lower case. -/
def canonicalDns (name : String) : List Char :=
  let lower := Text.asciiLower name.toList
  if lower.getLast? = some '.' then lower.dropLast else lower

/-- A DNS pattern covers a name: the same labels, where an asterisk stands for one first label. -/
def coversDns (pattern name : List Char) : Bool :=
  match pattern with
  | '*' :: '.' :: rest =>
    match ServerName.labels name with
    | first :: others => !first.isEmpty && !others.isEmpty && others == ServerName.labels rest
    | [] => false
  | _ => pattern == name

/-- A presented name covers the name that the client expects. -/
def PresentedName.covers : PresentedName → ServerName → Bool
  | dns pattern, .dns name => coversDns (canonicalDns pattern) (canonicalDns name)
  | ip address, .ip expected => address == expected
  | _, _ => false

/-! ## The verdict -/

/-- The most certificates that a chain may lead through. -/
def chainLimit : Nat := 6

/-- An authority of the given name is trusted, directly or through authorities of the chain. -/
def isTrusted (anchors : List TrustAnchor) (chain : List Certificate) :
    Nat → List UInt8 → Bool
  | 0, issuer => anchors.any fun a => a.subject == issuer
  | depth + 1, issuer =>
    anchors.any (fun a => a.subject == issuer)
      || chain.any fun c =>
        c.isAuthority && c.subject == issuer && isTrusted anchors chain depth c.issuer

/-- The fault of a certificate chain for a client that trusts the anchors and expects the name:
the first certificate may not be an authority's, must lead to an anchor and must cover the
name. -/
def chainFault? (anchors : List TrustAnchor) (expected : ServerName) :
    List Certificate → Option CertificateFault
  | [] => some .badEncoding
  | leaf :: others =>
    if leaf.isAuthority then some (.defective .authorityAsServer)
    else if !isTrusted anchors others chainLimit leaf.issuer then some .unknownIssuer
    else if leaf.names.any fun n => n.covers expected then none
    else some (.notValidForName expected (leaf.names.map PresentedName.describe))

end BoundedTls.Tls
