import BoundedTls.Log.Directive
import BoundedTls.Program.Arguments
import BoundedTls.Program.Failure
import BoundedTls.Tls.BuiltIn

/-!
# What a process sets out to do

Before the program does its work it reads its arguments and its settings, opens its log and loads
its TLS material, in this order. The first of these that fails ends it.
-/

namespace BoundedTls.Program

open BoundedTls.CommandLine

/-- What a process sets out to do, and with what. -/
structure Plan where
  command : Command
  settings : Config.Settings
  /-- The endpoint of all connections of the process. -/
  endpoint : Endpoint

/-- The end of a process whose command line gives no arguments. Help that was asked for is no
error. -/
def exitOf : Refusal → Exit
  | .help grammar true => ⟨.success, grammar.help, ""⟩
  | .help grammar false => ⟨.misuse, "", grammar.help⟩
  | .mistaken error => ⟨.misuse, "", error.text⟩

/-- The settings that the arguments name, or the defaults. -/
def settingsFor (files : Files) (arguments : Arguments) :
    Except Config.LoadError Config.Settings :=
  match arguments.configPath with
  | some path => Config.load (files.read path)
  | none => .ok {}

/-- The paths that a process reads: that of the settings file, and those in the settings, as far as
the files that are known tell them. -/
def pathsFor (files : Files) (words : List String) : List String :=
  match Arguments.read words with
  | .error _ => []
  | .ok arguments =>
    let material :=
      match settingsFor files arguments with
      | .ok settings => [settings.tls.certPath, settings.tls.keyPath, settings.tls.caPath]
      | .error _ => []
    (arguments.configPath :: material).filterMap id

/-- Open the log. The level of the arguments goes before the one of the settings. -/
def Process.openLog (p : Process) (around : Surroundings) (arguments : Arguments)
    (settings : Config.Settings) : Process :=
  let level := arguments.logLevel.getD settings.observability.level
  let installation := p.logger.install around.filter (Log.defaultDirective level)
  installation.complaints.foldl complain { p with logger := installation.logger }

/-- The endpoint that the settings describe, which gives each connection the same context. -/
def endpointFor (settings : Config.Settings) (context : Tls.Context) : Endpoint :=
  (Endpoint.ofSettings settings.handshake).setProvider ⟨fun _ => some context, false⟩

/-- Start a process: its plan, or its end. -/
def start (around : Surroundings) (words : List String) : Except Exit (Process × Plan) :=
  match Arguments.read words with
  | .error refusal => .error (exitOf refusal)
  | .ok arguments =>
    let p : Process := {}
    match settingsFor around.files arguments with
    | .error e => .error (p.fail (.settings e))
    | .ok settings =>
      let p := p.openLog around arguments settings
      match Tls.Context.ofSettings around.files settings.tls with
      | .error e => .error (p.fail (.material e))
      | .ok context =>
        let handshake := settings.handshake
        .ok (p.log (.starting handshake.timeoutMs handshake.nodelay),
          ⟨arguments.command, settings, endpointFor settings context⟩)

end BoundedTls.Program
