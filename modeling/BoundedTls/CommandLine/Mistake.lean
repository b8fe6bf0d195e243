import BoundedTls.CommandLine.Grammar

/-!
# Mistakes on the command line

What can be wrong with a command line, and how the user is told.
-/

namespace BoundedTls.CommandLine

/-- A hint at what might have been meant. -/
inductive Tip where
  | similarFlag (long : String)
  | similarCommands (names : List String)
  /-- Behind a double dash the text would be a value. -/
  | asValue (text : String)
  /-- A command has the flag. -/
  | flagOfCommand (command long : String)
  /-- Without the double dash before it the text would be a command. -/
  | withoutEscape (name : String)
deriving DecidableEq, Repr

/-- The tip as a sentence. -/
def Tip.text : Tip → String
  | similarFlag long => "a similar argument exists: '--" ++ long ++ "'"
  | similarCommands [name] => "a similar subcommand exists: '" ++ name ++ "'"
  | similarCommands names =>
    "some similar subcommands exist: " ++ ", ".intercalate (names.map fun n => "'" ++ n ++ "'")
  | asValue text => "to pass '" ++ text ++ "' as a value, use '-- " ++ text ++ "'"
  | flagOfCommand command long => "'" ++ command ++ " --" ++ long ++ "' exists"
  | withoutEscape name =>
    "subcommand '" ++ name ++ "' exists; to use it, remove the '--' before it"

/-- What is wrong with a command line. -/
inductive Mistake where
  | unknownArgument (text : String)
  | unknownCommand (text : String)
  | missingCommand
  /-- A part that takes a value has none. -/
  | missingValue (part : String)
  | invalidValue (part value reason : String)
  | repeated (part : String)
  /-- A part that takes no value has one. -/
  | surplusValue (part value : String)
  | missingArguments (parts : List String)
deriving DecidableEq, Repr

/-- The mistake as a sentence. -/
def Mistake.text (g : Grammar) : Mistake → String
  | unknownArgument text => "unexpected argument '" ++ text ++ "' found"
  | unknownCommand text => "unrecognized subcommand '" ++ text ++ "'"
  | missingCommand =>
    "'" ++ g.path ++ "' requires a subcommand but one was not provided\n  [subcommands: "
      ++ ", ".intercalate (g.commands.map Listing.name) ++ "]"
  | missingValue part => "a value is required for '" ++ part ++ "' but none was supplied"
  | invalidValue part value reason =>
    "invalid value '" ++ value ++ "' for '" ++ part ++ "': " ++ reason
  | repeated part => "the argument '" ++ part ++ "' cannot be used multiple times"
  | surplusValue part value =>
    "unexpected value '" ++ value ++ "' for '" ++ part ++ "' found; no more were expected"
  | missingArguments parts =>
    "the following required arguments were not provided:"
      ++ String.join (parts.map ("\n  " ++ ·))

/-- A mistake with all that is said about it. -/
structure UsageError where
  grammar : Grammar
  mistake : Mistake
  tips : List Tip := []
  /-- The usage line, where it helps. -/
  usage : Option String := none

/-- The error as it is printed. -/
def UsageError.text (e : UsageError) : String :=
  let tips :=
    if e.tips.isEmpty then ""
    else "\n" ++ String.join (e.tips.map fun tip => "\n  tip: " ++ tip.text)
  let usage := (e.usage.map ("\n\n" ++ ·)).getD ""
  let closing := if e.grammar.hasHelp then "\n\nFor more information, try '--help'.\n" else "\n"
  "error: " ++ e.mistake.text e.grammar ++ tips ++ usage ++ closing

/-- Why reading a command line gives no arguments. -/
inductive Refusal where
  /-- The help text is due, because it was asked for or because nothing was. -/
  | help (grammar : Grammar) (asked : Bool)
  | mistaken (error : UsageError)

end BoundedTls.CommandLine
