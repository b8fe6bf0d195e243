import BoundedTls.Fault.Number
import BoundedTls.Tls.Failure

/-!
# Faults of input and output

A fault is a number from the operating system, a bare kind, or a kind together with a cause. The
cause tells faults of the TLS engine from those of the transport.
-/

namespace BoundedTls

open BoundedTls.Text

/-- What lies behind a fault. -/
inductive Cause where
  | text (s : String)
  /-- The TLS engine has given up. -/
  | engine (failure : Tls.Failure)
  /-- A task has panicked with this text. -/
  | panic (text : String)
deriving DecidableEq, Repr

namespace Cause

/-- The cause as a message. The number of a task means nothing outside its run, so none is
written. -/
def message : Cause → String
  | text s => s
  | engine failure => failure.message
  | panic payload => "task N panicked with message " ++ quoted payload

/-- The cause with its kind and parts. -/
def describe : Cause → String
  | text s => quoted s
  | engine failure => failure.describe
  | panic payload => "JoinError::Panic(Id(N), " ++ quoted payload ++ ", ...)"

end Cause

/-- Why reading, writing, binding or connecting failed. -/
inductive Fault where
  /-- The operating system reports this number. -/
  | number (code : Nat)
  | plain (kind : FaultKind)
  /-- A fixed remark. -/
  | remark (kind : FaultKind) (text : String)
  | custom (kind : FaultKind) (cause : Cause)
deriving DecidableEq, Repr

namespace Fault

/-- The fault as a message. -/
def message : Fault → String
  | number code => ErrorNumber.text code ++ " (os error " ++ numeral code ++ ")"
  | plain kind => kind.description
  | remark _ text => text
  | custom _ cause => cause.message

/-- The fault with its kind and parts. -/
def describe : Fault → String
  | number code =>
    "Os \x7b code: " ++ numeral code ++ ", kind: " ++ (ErrorNumber.kind code).name
      ++ ", message: " ++ quoted (ErrorNumber.text code) ++ " \x7d"
  | plain kind => "Kind(" ++ kind.name ++ ")"
  | remark kind text =>
    "Error \x7b kind: " ++ kind.name ++ ", message: " ++ quoted text ++ " \x7d"
  | custom kind cause =>
    "Custom \x7b kind: " ++ kind.name ++ ", error: " ++ cause.describe ++ " \x7d"

/-- The engine's reason, if the fault comes from the TLS engine. -/
def engineFailure? : Fault → Option Tls.Failure
  | custom _ (.engine failure) => some failure
  | _ => none

/-- The engine has rejected the peer's data. -/
def ofEngine (failure : Tls.Failure) : Fault :=
  custom .invalidData (.engine failure)

/-- A file is not UTF-8 text. -/
def notUtf8 : Fault :=
  remark .invalidData "stream did not contain valid UTF-8"

/-- A path holds a zero byte. -/
def nulInPath : Fault :=
  remark .invalidInput "file name contained an unexpected NUL byte"

/-- A text is not a socket address. -/
def badAddress : Fault :=
  custom .invalidInput (.text "invalid socket address syntax")

/-- The stream ended in the middle of a handshake. -/
def handshakeEof : Fault :=
  custom .unexpectedEof (.text "tls handshake eof")

/-- The data has ended before as many bytes came as were wanted. -/
def earlyEnd : Fault :=
  custom .unexpectedEof (.text "early eof")

/-- The page about streams that end without a farewell. -/
def missingFarewellPage : String :=
  "https:" ++ "/" ++ "/docs.rs/rustls/latest/rustls/manual/_03_howto/index.html#unexpected-eof"

/-- A secured stream ended without a farewell. -/
def missingFarewell : Fault :=
  custom .unexpectedEof (.text
    ("peer closed connection without sending TLS close_notify: " ++ missingFarewellPage))

end Fault

end BoundedTls
