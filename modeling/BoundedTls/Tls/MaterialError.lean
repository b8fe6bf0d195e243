import BoundedTls.Fault.Basic

/-!
# Errors of TLS material

Why certificates, keys and names do not make a TLS context.
-/

namespace BoundedTls.Tls

open BoundedTls.Text

/-- Why no TLS context could be built. -/
inductive MaterialError where
  /-- No file is there. -/
  | notFound (path : String)
  /-- The file or its armour cannot be read. -/
  | unreadable (fault : Fault)
  | noCertificates (source : String)
  | noPrivateKey (source : String)
  | badServerName
  /-- The engine refuses the material. -/
  | refused (failure : Failure)
deriving DecidableEq, Repr

namespace MaterialError

/-- The error as a message. -/
def message : MaterialError → String
  | notFound path => "file not found: " ++ quoted path
  | unreadable fault => "failed to read PEM material: " ++ fault.message
  | noCertificates source => "no certificates found in " ++ source
  | noPrivateKey source => "no private key found in " ++ source
  | badServerName => "invalid server name: invalid dns name"
  | refused failure => "TLS configuration rejected: " ++ failure.message

/-- The error with its kind and parts. -/
def describe : MaterialError → String
  | notFound path => "NotFound(" ++ quoted path ++ ")"
  | unreadable fault => "Io(" ++ fault.describe ++ ")"
  | noCertificates source => "NoCertificates(" ++ quoted source ++ ")"
  | noPrivateKey source => "NoPrivateKey(" ++ quoted source ++ ")"
  | badServerName => "InvalidServerName(InvalidDnsNameError)"
  | refused failure => "Rustls(" ++ failure.describe ++ ")"

/-- The message of what lies behind the error. -/
def source? : MaterialError → Option String
  | unreadable fault => some fault.message
  | badServerName => some "invalid dns name"
  | refused failure => some failure.message
  | _ => none

end MaterialError

end BoundedTls.Tls
