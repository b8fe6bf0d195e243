import BoundedTls.Address.ServerName

/-!
# Failures of the TLS engine

Why the engine rejects a peer, a certificate or a key. Each failure has a message for people and
a description that names its kind.
-/

namespace BoundedTls.Tls

open BoundedTls.Text BoundedTls.Address

/-! ## Alerts -/

/-- The number of an alert, by which one side tells the other why it gives up. -/
structure Alert where
  code : Nat
deriving DecidableEq, Repr

namespace Alert

/-- The alerts with a name. -/
def names : List (Nat × String) := [
  (0, "CloseNotify"),
  (10, "UnexpectedMessage"),
  (20, "BadRecordMac"),
  (21, "DecryptionFailed"),
  (22, "RecordOverflow"),
  (30, "DecompressionFailure"),
  (40, "HandshakeFailure"),
  (41, "NoCertificate"),
  (42, "BadCertificate"),
  (43, "UnsupportedCertificate"),
  (44, "CertificateRevoked"),
  (45, "CertificateExpired"),
  (46, "CertificateUnknown"),
  (47, "IllegalParameter"),
  (48, "UnknownCA"),
  (49, "AccessDenied"),
  (50, "DecodeError"),
  (51, "DecryptError"),
  (60, "ExportRestriction"),
  (70, "ProtocolVersion"),
  (71, "InsufficientSecurity"),
  (80, "InternalError"),
  (86, "InappropriateFallback"),
  (90, "UserCanceled"),
  (100, "NoRenegotiation"),
  (109, "MissingExtension"),
  (110, "UnsupportedExtension"),
  (111, "CertificateUnobtainable"),
  (112, "UnrecognisedName"),
  (113, "BadCertificateStatusResponse"),
  (114, "BadCertificateHashValue"),
  (115, "UnknownPSKIdentity"),
  (116, "CertificateRequired"),
  (120, "NoApplicationProtocol"),
  (121, "EncryptedClientHelloRequired")]

/-- The name of an alert. -/
def name (a : Alert) : String :=
  match names.find? fun row => row.1 == a.code with
  | some (_, name) => name
  | none => "AlertDescription(0x" ++ String.ofList (hexDigits a.code) ++ ")"

/-- The alert to a message out of turn. -/
def unexpectedMessage : Alert := ⟨10⟩

/-- The alert to a certificate for another name. -/
def badCertificate : Alert := ⟨42⟩

/-- The alert to a certificate that fails for a reason without a number of its own. -/
def certificateUnknown : Alert := ⟨46⟩

/-- The alert to a certificate that nobody trusted has issued. -/
def unknownAuthority : Alert := ⟨48⟩

/-- The alert to a message that cannot be read. -/
def decodeError : Alert := ⟨50⟩

/-- The alert to a peer without a common protocol version. -/
def protocolVersion : Alert := ⟨70⟩

end Alert

/-! ## Certificates -/

/-- What is wrong with a certificate that can be read. -/
inductive CertificateDefect where
  /-- It is the certificate of an authority, not of a server. -/
  | authorityAsServer
  /-- It is not of the third version. -/
  | unsupportedVersion
  /-- It names two algorithms for its signature. -/
  | algorithmMismatch
  /-- It has an extension that must be understood and is not. -/
  | unknownCritical
  /-- It has an extension twice. -/
  | repeatedExtension
deriving DecidableEq, Repr

/-- The name of a defect. -/
def CertificateDefect.name : CertificateDefect → String
  | authorityAsServer => "CaUsedAsEndEntity"
  | unsupportedVersion => "UnsupportedCertVersion"
  | algorithmMismatch => "SignatureAlgorithmMismatch"
  | unknownCritical => "UnsupportedCriticalExtension"
  | repeatedExtension => "ExtensionValueInvalid"

/-- Why a certificate is not accepted. -/
inductive CertificateFault where
  /-- It cannot be read. -/
  | badEncoding
  /-- No trusted authority has issued it. -/
  | unknownIssuer
  | defective (defect : CertificateDefect)
  /-- It is made out to other names. -/
  | notValidForName (expected : ServerName) (presented : List String)
deriving DecidableEq, Repr

namespace CertificateFault

/-- Some things, the last after an "or". -/
def alternatives : List String → String
  | [] => ""
  | [one] => one
  | many => ", ".intercalate many.dropLast ++ " or " ++ many.getLast?.getD ""

/-- The names a certificate is made out to, as part of a sentence. -/
def validity (presented : List String) : String :=
  if presented.isEmpty then
    "is not valid for any names (according to its subjectAltName extension)"
  else "is only valid for " ++ alternatives presented

/-- The kind of the fault with its parts. -/
def describe : CertificateFault → String
  | badEncoding => "BadEncoding"
  | unknownIssuer => "UnknownIssuer"
  | defective defect => "Other(OtherError(" ++ defect.name ++ "))"
  | notValidForName expected presented =>
    "NotValidForNameContext \x7b expected: " ++ expected.describe ++ ", presented: ["
      ++ ", ".intercalate (presented.map quoted) ++ "] \x7d"

/-- The fault as a message. -/
def message : CertificateFault → String
  | notValidForName expected presented =>
    "certificate not valid for name " ++ quoted expected.render ++ "; certificate "
      ++ validity presented
  | fault => fault.describe

/-- The alert that tells the peer about the fault. -/
def alert : CertificateFault → Alert
  | badEncoding => .decodeError
  | unknownIssuer => .unknownAuthority
  | defective _ => .certificateUnknown
  | notValidForName _ _ => .badCertificate

end CertificateFault

/-! ## Records -/

/-- The kinds of records. -/
inductive ContentType where
  | changeCipherSpec
  | alert
  | handshake
  | applicationData
  | heartbeat
deriving DecidableEq, Repr

namespace ContentType

/-- The kind of a given number. -/
def ofCode? (code : Nat) : Option ContentType :=
  match code with
  | 20 => some changeCipherSpec
  | 21 => some alert
  | 22 => some handshake
  | 23 => some applicationData
  | 24 => some heartbeat
  | _ => none

/-- The name of a kind. -/
def name : ContentType → String
  | changeCipherSpec => "ChangeCipherSpec"
  | alert => "Alert"
  | handshake => "Handshake"
  | applicationData => "ApplicationData"
  | heartbeat => "Heartbeat"

end ContentType

/-- Why the bytes of a peer are no record. -/
inductive Corruption where
  | contentType
  | version
  | emptyPayload
  | tooLarge
  | handshakeTooLarge
  | changeCipherSpec
  /-- The message ends before a part that it must have. -/
  | missing (part : String)
  /-- The message goes on behind its last part. -/
  | trailing (part : String)
deriving DecidableEq, Repr

/-- The name of a corruption. -/
def Corruption.describe : Corruption → String
  | contentType => "InvalidContentType"
  | version => "UnknownProtocolVersion"
  | emptyPayload => "InvalidEmptyPayload"
  | tooLarge => "MessageTooLarge"
  | handshakeTooLarge => "HandshakePayloadTooLarge"
  | changeCipherSpec => "InvalidCcs"
  | trailing part => "TrailingData(" ++ quoted part ++ ")"
  | missing part => "MissingData(" ++ quoted part ++ ")"

/-! ## Failures -/

/-- Why the engine gives up. -/
inductive Failure where
  /-- The peer has sent a fatal alert. -/
  | alertReceived (alert : Alert)
  /-- The peer offers no protocol version that this side allows. -/
  | noCommonVersion
  | invalidCertificate (fault : CertificateFault)
  /-- The bytes of the peer are no record of the protocol. -/
  | corrupt (cause : Corruption)
  /-- A record of another kind stands where a handshake record must. -/
  | outOfTurn (got : ContentType)
  /-- A handshake message of another kind stands where another must. -/
  | wrongMessage (got : String) (expected : List String)
  /-- The private key does not belong to the certificate. -/
  | keyMismatch
  /-- The private key has no form that the engine reads. -/
  | unusableKey
  /-- Whatever else an engine objects to, by its message and its description. -/
  | other (message description : String)
deriving DecidableEq, Repr

namespace Failure

/-- What is said of a key in no known form. -/
def unusableKeyText : String :=
  "failed to parse private key as RSA, ECDSA, or EdDSA"

/-- The failure as a message. -/
def message : Failure → String
  | alertReceived alert => "received fatal alert: " ++ alert.name
  | noCommonVersion => "peer is incompatible: Tls12NotOfferedOrEnabled"
  | invalidCertificate fault => "invalid peer certificate: " ++ fault.message
  | corrupt cause => "received corrupt message of type " ++ cause.describe
  | outOfTurn got => "received unexpected message: got " ++ got.name ++ " when expecting Handshake"
  | wrongMessage got expected =>
    "received unexpected handshake message: got " ++ got ++ " when expecting "
      ++ " or ".intercalate expected
  | keyMismatch => "keys may not be consistent: KeyMismatch"
  | unusableKey => "unexpected error: " ++ unusableKeyText
  | other message _ => message

/-- The kind of the failure with its parts. -/
def describe : Failure → String
  | alertReceived alert => "AlertReceived(" ++ alert.name ++ ")"
  | noCommonVersion => "PeerIncompatible(Tls12NotOfferedOrEnabled)"
  | invalidCertificate fault => "InvalidCertificate(" ++ fault.describe ++ ")"
  | corrupt cause => "InvalidMessage(" ++ cause.describe ++ ")"
  | outOfTurn got =>
    "InappropriateMessage \x7b expect_types: [Handshake], got_type: " ++ got.name ++ " \x7d"
  | wrongMessage got expected =>
    "InappropriateHandshakeMessage \x7b expect_types: [" ++ ", ".intercalate expected
      ++ "], got_type: " ++ got ++ " \x7d"
  | keyMismatch => "InconsistentKeys(KeyMismatch)"
  | unusableKey => "General(" ++ quoted unusableKeyText ++ ")"
  | other _ description => description

end Failure

end BoundedTls.Tls
