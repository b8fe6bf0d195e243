/-!
# Grammars of command lines

What a program accepts on its command line: flags, a positional argument, and commands, which have
grammars of their own. From a grammar follow the usage line and the help text.
-/

namespace BoundedTls.CommandLine

/-! ## Parts -/

/-- Why a text is not a value. -/
inductive ValueFault where
  /-- It is empty, which does not count as a value. -/
  | missing
  | invalid (reason : String)
deriving DecidableEq, Repr

/-- A value that a part of the command line takes. -/
structure Parameter where
  /-- The name of the value in usage lines. -/
  placeholder : String
  /-- What is wrong with a value. -/
  fault? : String → Option ValueFault := fun _ => none

/-- A flag, which has a long and a short name. -/
structure Flag where
  long : String
  short : Char
  /-- The value that the flag takes; a flag without one asks for help. -/
  parameter : Option Parameter
  help : String

/-- The flag that asks for help. -/
def helpFlag : Flag :=
  { long := "help", short := 'h', parameter := none, help := "Print help" }

/-- A positional argument. -/
structure Positional where
  parameter : Parameter
  help : String
  required : Bool := true
  /-- It may be given any number of times. -/
  repeats : Bool := false

/-- The name of a command and what it does. -/
structure Listing where
  name : String
  about : String
deriving DecidableEq, Repr

/-- What a program or one of its commands accepts. -/
structure Grammar where
  /-- The words that lead to the command. -/
  path : String
  about : String
  flags : List Flag
  positional : Option Positional := none
  commands : List Listing := []

/-- A program: its own grammar and those of its commands. -/
structure Interface where
  root : Grammar
  commands : List (String × Grammar)

/-! ## How parts are shown -/

/-- The flag with its value. -/
def Flag.shown (f : Flag) : String :=
  match f.parameter with
  | some p => "--" ++ f.long ++ " <" ++ p.placeholder ++ ">"
  | none => "--" ++ f.long

/-- The flag with both names and its value. -/
def Flag.listed (f : Flag) : String :=
  "-" ++ String.singleton f.short ++ ", " ++ f.shown

/-- The positional argument with its brackets. -/
def Positional.shown (p : Positional) : String :=
  let name := p.parameter.placeholder
  let core := if p.required then "<" ++ name ++ ">" else "[" ++ name ++ "]"
  if p.repeats then core ++ "..." else core

namespace Grammar

/-- The flag of a long name. -/
def flag? (g : Grammar) (long : String) : Option Flag :=
  g.flags.find? fun f => f.long == long

/-- The flag of a short name. -/
def flagOfChar? (g : Grammar) (short : Char) : Option Flag :=
  g.flags.find? fun f => f.short == short

/-- The grammar knows the flag that asks for help. -/
def hasHelp (g : Grammar) : Bool :=
  (g.flag? helpFlag.long).isSome

/-- A command is listed under a name. -/
def lists (g : Grammar) (name : String) : Bool :=
  g.commands.any fun c => c.name == name

/-- Words with a space before each. -/
def spaced (words : List String) : String :=
  String.join (words.map (" " ++ ·))

/-- What follows the flags in a usage line. -/
def arguments (g : Grammar) : List String :=
  (g.positional.map Positional.shown).toList ++ (if g.commands.isEmpty then [] else ["<COMMAND>"])

/-- The usage line. Where flags are at issue they are shown, otherwise a hint at the flags other
than help. -/
def usage (g : Grammar) (atIssue : List Flag) : String :=
  let optional := g.flags.any fun f => f.parameter.isSome
  let flags :=
    if !atIssue.isEmpty then atIssue.map Flag.shown
    else if optional then ["[OPTIONS]"]
    else []
  "Usage: " ++ g.path ++ spaced (flags ++ g.arguments)

/-- The usage line in which nothing but flags at issue stands before the arguments. -/
def strictUsage (g : Grammar) (atIssue : List Flag) : String :=
  "Usage: " ++ g.path ++ spaced (atIssue.map Flag.shown ++ g.arguments)

/-! ## Help -/

/-- Rows in two columns under a title. -/
def table (title : String) (rows : List (String × String)) : String :=
  let width := (rows.map fun row => row.1.length).foldl max 0
  let line (row : String × String) : String :=
    "  " ++ row.1 ++ String.ofList (List.replicate (width - row.1.length) ' ') ++ "  " ++ row.2
  title ++ ":\n" ++ "\n".intercalate (rows.map line)

/-- The help text. -/
def help (g : Grammar) : String :=
  let commands := g.commands.map fun c => (c.name, c.about)
  let positionals := g.positional.toList.map fun p => (p.shown, p.help)
  let flags := g.flags.map fun f => (f.listed, f.help)
  let section? (title : String) (rows : List (String × String)) : List String :=
    if rows.isEmpty then [] else [table title rows]
  "\n\n".intercalate
    ([g.about, g.usage []] ++ section? "Commands" commands ++ section? "Arguments" positionals
      ++ section? "Options" flags) ++ "\n"

end Grammar

end BoundedTls.CommandLine
