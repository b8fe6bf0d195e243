import BoundedTls.Fault.Basic

/-!
# Files

The files that a program finds from its working directory. A path is followed name by name; one dot
stays where it is, two dots go back, and what lies outside the working directory is not known.
-/

namespace BoundedTls

/-- What a path leads to. -/
inductive FileEntry where
  | contents (bytes : List UInt8)
  | directory
  /-- A file that cannot be opened. -/
  | locked (fault : Fault)
  /-- A file that cannot be read to its end, with what can be read of it. -/
  | broken (bytes : List UInt8) (fault : Fault)
deriving DecidableEq, Repr

/-- What can be read of something: bytes, and the fault that reading ends in, if it does. -/
structure Reading where
  bytes : List UInt8
  fault : Option Fault
deriving DecidableEq, Repr

/-- The files of a program: what each path leads to. -/
structure Files where
  find : String → Except Fault FileEntry

namespace Files

/-- The files of which only what was found at some paths is known. -/
def ofFindings (findings : List (String × Except Fault FileEntry)) : Files :=
  ⟨fun path =>
    match findings.find? fun finding => finding.1 == path with
    | some (_, found) => found
    | none => .error (.number ErrorNumber.noSuchFile)⟩

/-- Open what is at a path, if something is there. A directory can be opened, but not read. -/
def open? (f : Files) (path : String) : Option (Except Fault Reading) :=
  match f.find path with
  | .ok (.contents bytes) => some (.ok ⟨bytes, none⟩)
  | .ok .directory => some (.ok ⟨[], some (.number ErrorNumber.isDirectory)⟩)
  | .ok (.locked fault) => some (.error fault)
  | .ok (.broken bytes fault) => some (.ok ⟨bytes, some fault⟩)
  | .error _ => none

/-- All bytes of the file at a path. -/
def read (f : Files) (path : String) : Except Fault (List UInt8) :=
  match f.find path with
  | .ok (.contents bytes) => .ok bytes
  | .ok .directory => .error (.number ErrorNumber.isDirectory)
  | .ok (.locked fault) | .ok (.broken _ fault) => .error fault
  | .error fault => .error fault

/-! ## A working directory -/

/-- Where following a path has led so far. -/
inductive Place where
  /-- Above the working directory. -/
  | outside
  /-- A directory by the names that lead to it. -/
  | inside (names : List String)
  | file (entry : FileEntry)
deriving DecidableEq, Repr

/-- The names on the way to an entry. -/
def namesOf (path : String) : List String :=
  (path.toList.splitOn '/').map String.ofList

/-- The longest name and the longest path that are looked up, in bytes. -/
def nameLimit : Nat := 255

/-- The first length of a path that is too long, in bytes. -/
def pathLimit : Nat := 4096

/-- Take one step from a directory. -/
def enter (entries : List (List String × FileEntry)) (names : List String) (name : String) :
    Except Fault Place :=
  let target := names ++ [name]
  match entries.find? fun e => e.1 == target with
  | some (_, .directory) => .ok (.inside target)
  | some (_, entry) => .ok (.file entry)
  | none =>
    if entries.any fun e => target.isPrefixOf e.1 then .ok (.inside target)
    else .error (.number ErrorNumber.noSuchFile)

/-- Take one step. -/
def step (entries : List (List String × FileEntry)) (place : Place) (name : String) :
    Except Fault Place :=
  match place with
  | .file _ => .error (.number ErrorNumber.notDirectory)
  | .outside =>
    if name = "" ∨ name = "." ∨ name = ".." then .ok .outside
    else .error (.number ErrorNumber.noSuchFile)
  | .inside names =>
    if name = "" ∨ name = "." then .ok place
    else if name = ".." then
      .ok (if names.isEmpty then .outside else .inside names.dropLast)
    else if nameLimit < name.utf8ByteSize then .error (.number ErrorNumber.nameTooLong)
    else enter entries names name

/-- Follow a path through a working directory with the given entries. -/
def follow (entries : List (List String × FileEntry)) (path : String) : Except Fault FileEntry :=
  if path.toList.contains '\x00' then .error .nulInPath
  else if path.isEmpty then .error (.number ErrorNumber.noSuchFile)
  else if pathLimit ≤ path.utf8ByteSize then .error (.number ErrorNumber.nameTooLong)
  else
    let start := if path.toList.head? == some '/' then Place.outside else .inside []
    match (namesOf path).foldlM (step entries) start with
    | .ok (.file entry) => .ok entry
    | .ok _ => .ok .directory
    | .error fault => .error fault

/-- The files of a working directory, by the paths of its entries. -/
def ofEntries (entries : List (String × FileEntry)) : Files :=
  ⟨follow (entries.map fun (path, entry) => (namesOf path, entry))⟩

end Files

end BoundedTls
