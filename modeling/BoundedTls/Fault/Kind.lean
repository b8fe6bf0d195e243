/-!
# Kinds of fault

The kinds into which the failures of input and output fall, each with its name and its general
description.
-/

namespace BoundedTls

/-- What sort of thing went wrong while reading, writing, binding or connecting. -/
inductive FaultKind where
  | addrInUse
  | addrNotAvailable
  | alreadyExists
  | argumentListTooLong
  | brokenPipe
  | connectionAborted
  | connectionRefused
  | connectionReset
  | crossesDevices
  | deadlock
  | directoryNotEmpty
  | executableFileBusy
  | fileTooLarge
  | filesystemLoop
  | hostUnreachable
  | inProgress
  | interrupted
  | invalidData
  | invalidFilename
  | invalidInput
  | isADirectory
  | networkDown
  | networkUnreachable
  | notADirectory
  | notConnected
  | notFound
  | notSeekable
  | other
  | outOfMemory
  | permissionDenied
  | quotaExceeded
  | readOnlyFilesystem
  | resourceBusy
  | staleNetworkFileHandle
  | storageFull
  | timedOut
  | tooManyLinks
  | uncategorized
  | unexpectedEof
  | unsupported
  | wouldBlock
  | writeZero
deriving DecidableEq, Repr

namespace FaultKind

/-- The name and the description of a kind. -/
def entry : FaultKind → String × String
  | addrInUse => ("AddrInUse", "address in use")
  | addrNotAvailable => ("AddrNotAvailable", "address not available")
  | alreadyExists => ("AlreadyExists", "entity already exists")
  | argumentListTooLong => ("ArgumentListTooLong", "argument list too long")
  | brokenPipe => ("BrokenPipe", "broken pipe")
  | connectionAborted => ("ConnectionAborted", "connection aborted")
  | connectionRefused => ("ConnectionRefused", "connection refused")
  | connectionReset => ("ConnectionReset", "connection reset")
  | crossesDevices => ("CrossesDevices", "cross-device link or rename")
  | deadlock => ("Deadlock", "deadlock")
  | directoryNotEmpty => ("DirectoryNotEmpty", "directory not empty")
  | executableFileBusy => ("ExecutableFileBusy", "executable file busy")
  | fileTooLarge => ("FileTooLarge", "file too large")
  | filesystemLoop => ("FilesystemLoop", "filesystem loop or indirection limit (e.g. symlink loop)")
  | hostUnreachable => ("HostUnreachable", "host unreachable")
  | inProgress => ("InProgress", "in progress")
  | interrupted => ("Interrupted", "operation interrupted")
  | invalidData => ("InvalidData", "invalid data")
  | invalidFilename => ("InvalidFilename", "invalid filename")
  | invalidInput => ("InvalidInput", "invalid input parameter")
  | isADirectory => ("IsADirectory", "is a directory")
  | networkDown => ("NetworkDown", "network down")
  | networkUnreachable => ("NetworkUnreachable", "network unreachable")
  | notADirectory => ("NotADirectory", "not a directory")
  | notConnected => ("NotConnected", "not connected")
  | notFound => ("NotFound", "entity not found")
  | notSeekable => ("NotSeekable", "seek on unseekable file")
  | other => ("Other", "other error")
  | outOfMemory => ("OutOfMemory", "out of memory")
  | permissionDenied => ("PermissionDenied", "permission denied")
  | quotaExceeded => ("QuotaExceeded", "quota exceeded")
  | readOnlyFilesystem => ("ReadOnlyFilesystem", "read-only filesystem or storage medium")
  | resourceBusy => ("ResourceBusy", "resource busy")
  | staleNetworkFileHandle => ("StaleNetworkFileHandle", "stale network file handle")
  | storageFull => ("StorageFull", "no storage space")
  | timedOut => ("TimedOut", "timed out")
  | tooManyLinks => ("TooManyLinks", "too many links")
  | uncategorized => ("Uncategorized", "uncategorized error")
  | unexpectedEof => ("UnexpectedEof", "unexpected end of file")
  | unsupported => ("Unsupported", "unsupported")
  | wouldBlock => ("WouldBlock", "operation would block")
  | writeZero => ("WriteZero", "write zero")

/-- The name of a kind. -/
def name (k : FaultKind) : String :=
  k.entry.1

/-- The description of a kind. -/
def description (k : FaultKind) : String :=
  k.entry.2

/-- All kinds. -/
def all : List FaultKind := [
  .addrInUse, .addrNotAvailable, .alreadyExists, .argumentListTooLong, .brokenPipe,
  .connectionAborted, .connectionRefused, .connectionReset, .crossesDevices, .deadlock,
  .directoryNotEmpty, .executableFileBusy, .fileTooLarge, .filesystemLoop, .hostUnreachable,
  .inProgress, .interrupted, .invalidData, .invalidFilename, .invalidInput, .isADirectory,
  .networkDown, .networkUnreachable, .notADirectory, .notConnected, .notFound, .notSeekable,
  .other, .outOfMemory, .permissionDenied, .quotaExceeded, .readOnlyFilesystem, .resourceBusy,
  .staleNetworkFileHandle, .storageFull, .timedOut, .tooManyLinks, .uncategorized,
  .unexpectedEof, .unsupported, .wouldBlock, .writeZero]

/-- The kind of a given name. -/
def ofName? (name : String) : Option FaultKind :=
  all.find? fun k => k.name == name

end FaultKind

end BoundedTls
