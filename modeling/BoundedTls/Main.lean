import BoundedTls.Program.Run

/-!
# The command line

The outermost layer: arguments, environment and files go in, two outputs and a number come out.
The program runs on a host of its own. A server there serves until the standard input ends.
-/

namespace BoundedTls.Program

/-- The number of a system error, as far as it is known. -/
def numberOf : IO.Error → Option Nat
  | .noFileOrDirectory _ code _ | .permissionDenied _ code _ | .inappropriateType _ code _
  | .invalidArgument _ code _ | .resourceExhausted _ code _ | .otherError code _ => some code.toNat
  | _ => none

/-- The fault that a system error stands for. -/
def faultOf (e : IO.Error) : Fault :=
  match numberOf e with
  | some code => .number code
  | none => .custom .other (.text (toString e))

/-- The numbers of the errors by which a path leads nowhere. -/
def leadsNowhere : List Nat :=
  [ErrorNumber.noSuchFile, ErrorNumber.notDirectory, ErrorNumber.nameTooLong]

/-- What is at a path. -/
def look (path : String) : IO (String × Except Fault FileEntry) := do
  try
    let bytes ← IO.FS.readBinFile path
    return (path, .ok (.contents bytes.toList))
  catch e =>
    let fault := faultOf e
    match numberOf e with
    | some code =>
      if leadsNowhere.contains code then return (path, .error fault)
      else return (path, .ok (.locked fault))
    | none => return (path, .error fault)

/-- The files that a process reads. The settings file has to be read before it is known which
other files it names. -/
def gather (words : List String) : IO Files := do
  let first ← (pathsFor (Files.ofFindings []) words).mapM look
  let all ← (pathsFor (Files.ofFindings first) words).mapM look
  return Files.ofFindings all

/-- Wait until the standard input ends. -/
partial def waitForEnd (input : IO.FS.Stream) : IO Unit := do
  unless (← input.getLine).isEmpty do waitForEnd input

/-- Write what a process has written, and end as it has ended. -/
def report (exit : Exit) : IO UInt32 := do
  (← IO.getStdout).putStr exit.output
  (← IO.getStderr).putStr exit.errors
  return UInt32.ofNat exit.ending.code

/-- Run the program on a host of its own. -/
def execute (words : List String) : IO UInt32 := do
  let around : Surroundings := ⟨← gather words, ← IO.getEnv "RUST_LOG"⟩
  let (launched, host) := Host.run {} around words
  match launched with
  | .ended exit => report exit
  | .awaiting => return UInt32.ofNat Ending.failure.code
  | .serving name =>
    waitForEnd (← IO.getStdin)
    match (host.interrupt name).1 with
    | some exit => report exit
    | none => return UInt32.ofNat Ending.success.code

end BoundedTls.Program

/-- The program. -/
def main (words : List String) : IO UInt32 :=
  BoundedTls.Program.execute words
