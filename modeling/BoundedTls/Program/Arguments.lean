import BoundedTls.Address.Socket
import BoundedTls.CommandLine.Reader

/-!
# The arguments of the program

The program serves as an echo server or connects to one. Its command line names the command, and
before it the settings file and a log level that goes before the one in the settings.
-/

namespace BoundedTls.Program

open BoundedTls.Address BoundedTls.CommandLine

/-- What the program is to do. -/
inductive Command where
  | serve
  | connect (address : SocketAddress) (message : String)
deriving DecidableEq, Repr

/-- The arguments of the program. -/
structure Arguments where
  configPath : Option String
  logLevel : Option String
  command : Command
deriving DecidableEq, Repr

/-! ## The command line -/

/-- The settings file; an empty path is no path. -/
def configFlag : Flag where
  long := "config"
  short := 'c'
  parameter := some {
    placeholder := "CONFIG"
    fault? := fun path => if path.isEmpty then some .missing else none }
  help := "Path to a TOML configuration file"

/-- The log level. -/
def levelFlag : Flag where
  long := "log-level"
  short := 'l'
  parameter := some { placeholder := "LOG_LEVEL" }
  help := "Override the configured log level"

/-- What a client sends if it is not told. -/
def defaultMessage : String :=
  "hello"

/-- What a client is to send. -/
def messageFlag : Flag where
  long := "message"
  short := 'm'
  parameter := some { placeholder := "MESSAGE" }
  help := "[default: " ++ defaultMessage ++ "]"

/-- What is said of a text that is no address. -/
def notAnAddress : String :=
  "invalid socket address syntax"

/-- The address to connect to. -/
def addressArgument : Positional where
  parameter := {
    placeholder := "ADDR"
    fault? := fun text =>
      if (SocketAddress.parse? text).isSome then none else some (.invalid notAnAddress) }
  help := "Server address, e.g. 127.0.0.1:8443"

/-- The words that lead to a command. -/
def pathTo (command : String) : String :=
  "secure-socket " ++ command

/-- The command that serves. -/
def serveGrammar : Grammar where
  path := pathTo "serve"
  about := "Accept TLS connections and echo whatever they send"
  flags := [helpFlag]

/-- The command that connects. -/
def connectGrammar : Grammar where
  path := pathTo "connect"
  about := "Connect to a TLS echo server, send a message and print the reply"
  flags := [messageFlag, helpFlag]
  positional := some addressArgument

/-- The command that shows help. -/
def helpGrammar : Grammar where
  path := pathTo helpCommand
  about := "Print this message or the help of the given subcommand(s)"
  flags := []
  positional := some {
    parameter := { placeholder := "COMMAND" }
    help := "Print help for the subcommand(s)"
    required := false
    repeats := true }

/-- The commands under their names. -/
def commands : List (String × Grammar) :=
  [("serve", serveGrammar), ("connect", connectGrammar), (helpCommand, helpGrammar)]

/-- The command line of the program. -/
def interface : Interface where
  root := {
    path := "secure-socket"
    about := "TLS echo server and client with bounded handshakes"
    flags := [configFlag, levelFlag, helpFlag]
    commands := commands.map fun (name, g) => ⟨name, g.about⟩ }
  commands := commands

/-- The command that was named, with its values. -/
def Command.ofValues (name : String) (values : Values) : Except Refusal Command :=
  if name = "serve" then .ok .serve
  else
    let text := (values.get? addressArgument.parameter.placeholder).getD ""
    match SocketAddress.parse? text with
    | some address => .ok (.connect address ((values.get? messageFlag.long).getD defaultMessage))
    | none =>
      mistakenValue connectGrammar (.invalidValue addressArgument.shown text notAnAddress)

/-- Read the arguments of the program. -/
def Arguments.read (words : List String) : Except Refusal Arguments := do
  let line ← interface.read words
  match line.command with
  | none => mistaken interface.root .missingCommand
  | some (name, values) => do
    let command ← Command.ofValues name values
    return ⟨line.values.get? configFlag.long, line.values.get? levelFlag.long, command⟩

end BoundedTls.Program
