import BoundedTls.CommandLine.Mistake
import BoundedTls.CommandLine.Similar

/-!
# Reading command lines

Words are read from left to right. A flag or positional argument that was given waits until the
next one is given, or until the end, before its value is looked at; only a value that is attached to
its flag is looked at on the spot. A mistake in a word that no grammar knows is reported before one
in a value that still waits. Behind a double dash every word is a positional argument.
-/

namespace BoundedTls.CommandLine

/-! ## Values -/

/-- A part of the command line that takes a value. -/
inductive Slot where
  | flag (f : Flag)
  | positional (p : Positional)

namespace Slot

/-- The name under which the value is kept. -/
def key : Slot → String
  | flag f => f.long
  | positional p => p.parameter.placeholder

/-- The part as it is shown. -/
def shown : Slot → String
  | flag f => f.shown
  | positional p => p.shown

/-- What is wrong with a value. -/
def fault? : Slot → String → Option ValueFault
  | flag f, value => f.parameter.bind fun p => p.fault? value
  | positional p, value => p.parameter.fault? value

end Slot

/-- Values by the names of their parts, in the order in which they were given. -/
abbrev Values := List (String × String)

/-- The value of a part. -/
def Values.get? (values : Values) (key : String) : Option String :=
  (List.find? (fun v => v.1 == key) values).map Prod.snd

/-- What has been read so far. -/
structure Sofar where
  values : Values := []
  /-- The part that was given last, with its value once that is known. -/
  pending : Option (Slot × Option String) := none
  /-- The positional argument was given. -/
  filled : Bool := false

namespace Sofar

/-- The part that was given last still has no value. -/
def awaits (s : Sofar) : Option Slot :=
  match s.pending with
  | some (slot, none) => some slot
  | _ => none

/-- The part of a name has been given. -/
def has (s : Sofar) (key : String) : Bool :=
  (s.values.get? key).isSome

end Sofar

/-- A mistake with the plain usage line. -/
def mistaken {α : Type} (g : Grammar) (mistake : Mistake) (tips : List Tip := []) :
    Except Refusal α :=
  .error (.mistaken ⟨g, mistake, tips, some (g.usage [])⟩)

/-- A mistake in a value, for which no usage line is shown. -/
def mistakenValue {α : Type} (g : Grammar) (mistake : Mistake) : Except Refusal α :=
  .error (.mistaken ⟨g, mistake, [], none⟩)

/-- Keep a value. A part without a value, a second value and a bad value are refused in this
order. -/
def keep (g : Grammar) (s : Sofar) (slot : Slot) (value : Option String) : Except Refusal Sofar :=
  match value with
  | none => mistakenValue g (.missingValue slot.shown)
  | some value =>
    if s.has slot.key then mistaken g (.repeated slot.shown)
    else
      match slot.fault? value with
      | none => .ok { s with values := s.values ++ [(slot.key, value)] }
      | some .missing => mistakenValue g (.missingValue slot.shown)
      | some (.invalid reason) => mistakenValue g (.invalidValue slot.shown value reason)

/-- Look at the value that waits. -/
def settle (g : Grammar) (s : Sofar) : Except Refusal Sofar :=
  match s.pending with
  | none => .ok s
  | some (slot, value) => keep g { s with pending := none } slot value

/-- The flags whose values are kept. -/
def flagsGiven (g : Grammar) (s : Sofar) : List Flag :=
  (s.values.map Prod.fst).filterMap g.flag?

/-- The flags that were given when a word turns out to be unknown: all that have a value, except one
that was given twice. -/
def flagsInUse (g : Grammar) (s : Sofar) : List Flag :=
  let given := s.values.map Prod.fst
  let keys :=
    match s.pending with
    | some (slot, some _) =>
      if s.has slot.key then given.filter (· != slot.key) else given ++ [slot.key]
    | _ => given
  keys.filterMap g.flag?

/-! ## Flags -/

/-- The tips for an unknown long flag, and the flag of the same grammar that may have been meant:
one of this grammar that looks alike, or one of a command that is named among the words that
follow. -/
def tipsForFlag (i : Interface) (g : Grammar) (name : String) (rest : List String) :
    List Tip × Option Flag :=
  match (lookalikes name (g.flags.map Flag.long)).getLast? with
  | some long => ([.similarFlag long], g.flag? long)
  | none =>
    let candidates := rest.filterMap fun word =>
      if g.lists word then
        (i.commands.find? fun c => c.1 == word).bind fun (_, command) =>
          ((lookalikes name (command.flags.map Flag.long)).getLast?).map (Tip.flagOfCommand word)
      else none
    match candidates.head? with
    | some tip => ([tip], none)
    | none =>
      (if g.positional.isSome then [.asValue ("--" ++ name)] else [], none)

/-- Refuse an unknown long flag. -/
def unknownFlag {α : Type} (i : Interface) (g : Grammar) (s : Sofar) (name : String)
    (rest : List String) : Except Refusal α :=
  let (tips, meant) := tipsForFlag i g name rest
  let used := flagsInUse g s
  let meant := meant.toList.filter fun f => !used.any fun u => u.long == f.long
  .error (.mistaken
    ⟨g, .unknownArgument ("--" ++ name), tips, some (g.usage (used ++ meant))⟩)

/-- A flag is given, with the value that is attached to it. -/
def giveFlag (g : Grammar) (s : Sofar) (f : Flag) (attached : Option String) :
    Except Refusal Sofar :=
  match f.parameter, attached with
  | some _, some value => do
    let s ← settle g s
    keep g s (.flag f) (some value)
  | some _, none => do
    let s ← settle g s
    return { s with pending := some (.flag f, none) }
  | none, none => do
    let _ ← settle g s
    .error (.help g true)
  | none, some value =>
    .error (.mistaken ⟨g, .surplusValue f.shown value, [], some (g.usage (flagsGiven g s ++ [f]))⟩)

/-- The value attached to a short flag: the rest of its word, without a leading equals sign. -/
def attachedTo : List Char → Option String
  | [] => none
  | '=' :: value => some (String.ofList value)
  | value => some (String.ofList value)

/-- The name of a long flag and the value attached to it. -/
def splitLong (text : List Char) : String × Option String :=
  let name := text.takeWhile (· != '=')
  let value := if name.length < text.length then
      some (String.ofList (text.drop (name.length + 1)))
    else none
  (String.ofList name, value)

/-! ## Words -/

/-- What a word can be by its shape. -/
inductive Word where
  | escape
  | long (name : String) (value : Option String)
  | short (first : Char) (rest : List Char)
  | plain
deriving DecidableEq, Repr

/-- The shape of a word. -/
def Word.of (text : String) : Word :=
  match text.toList with
  | ['-', '-'] => escape
  | '-' :: '-' :: rest => let (name, value) := splitLong rest; long name value
  | '-' :: first :: rest => short first rest
  | _ => plain

/-- Refuse a word that has no place. -/
def noPlace {α : Type} (g : Grammar) (trailing : Bool) (text : String) : Except Refusal α :=
  if trailing && g.lists text then mistaken g (.unknownArgument text) [.withoutEscape text]
  else if g.commands.isEmpty then mistaken g (.unknownArgument text)
  else
    match lookalikes text (g.commands.map Listing.name) with
    | [] => mistaken g (.unknownCommand text)
    | names => mistaken g (.unknownCommand text) [.similarCommands names]

/-- A word that is no flag and no command: a value that is awaited, or a positional argument. -/
def giveWord (g : Grammar) (s : Sofar) (trailing : Bool) (text : String) :
    Except Refusal Sofar :=
  match s.awaits with
  | some slot =>
    if trailing then placeWord else .ok { s with pending := some (slot, some text) }
  | none => placeWord
where
  /-- The word is a positional argument. -/
  placeWord : Except Refusal Sofar :=
    match g.positional with
    | some p =>
      if s.filled then noPlace g trailing text
      else do
        let s ← settle g s
        return { s with pending := some (.positional p, some text), filled := true }
    | none => noPlace g trailing text

/-- The end of the words of a grammar: what must be there is there. -/
def finish (g : Grammar) (s : Sofar) : Except Refusal Values := do
  let s ← settle g s
  if !g.commands.isEmpty then
    if s.values.isEmpty then .error (.help g false) else mistaken g .missingCommand
  else
    match g.positional with
    | some p =>
      if p.required && !s.has p.parameter.placeholder then
        .error (.mistaken ⟨g, .missingArguments [p.shown], [],
          some (g.strictUsage (flagsGiven g s))⟩)
      else return s.values
    | none => return s.values

/-- The help of a command that is named word by word. -/
def helpFor {α : Type} (i : Interface) (g : Grammar) : List String → Except Refusal α
  | [] => .error (.help g true)
  | name :: rest =>
    if g.lists name then
      match i.commands.find? fun c => c.1 == name with
      | some (_, command) => helpFor i command rest
      | none => mistaken g (.unknownCommand name)
    else mistaken g (.unknownCommand name)

/-- A command line: the values of the program itself, then those of its command. -/
structure Reading where
  values : Values
  command : Option (String × Values)

/-- An unknown short flag. -/
def unknownShort {α : Type} (g : Grammar) (name : Char) : Except Refusal α :=
  let text := "-" ++ String.singleton name
  mistaken g (.unknownArgument text) (if g.positional.isSome then [.asValue text] else [])

/-- The word is a command: it stands where no value is awaited and no double dash came before. -/
def isCommand (g : Grammar) (s : Sofar) (trailing : Bool) (text : String) : Bool :=
  !trailing && s.awaits.isNone && g.lists text

/-- Read one word that is no command and stands before a double dash; the words that follow it
only help to guess what was meant. -/
def readWord (i : Interface) (g : Grammar) (s : Sofar) (text : String) (rest : List String) :
    Except Refusal Sofar :=
  match Word.of text with
  | .long name value =>
    match g.flag? name with
    | some f => giveFlag g s f value
    | none => unknownFlag i g s name rest
  | .short first more =>
    match g.flagOfChar? first with
    | some f => giveFlag g s f (if f.parameter.isSome then attachedTo more else none)
    | none => unknownShort g first
  | _ => giveWord g s false text

/-- Read words up to a command: what was given, and the command with the words behind it. -/
def readWords (i : Interface) (g : Grammar) (s : Sofar) (trailing : Bool) :
    List String → Except Refusal (Sofar × Option (String × List String))
  | [] => .ok (s, none)
  | text :: rest =>
    if isCommand g s trailing text then .ok (s, some (text, rest))
    else if trailing then do
      let s ← giveWord g s true text
      readWords i g s true rest
    else if Word.of text = .escape then readWords i g s true rest
    else do
      let s ← readWord i g s text rest
      readWords i g s false rest

/-- The name of the command that shows help. -/
def helpCommand : String :=
  "help"

namespace Interface

/-- Read the words of a command, in which no further command can stand. -/
def readCommand (i : Interface) (g : Grammar) (words : List String) : Except Refusal Values := do
  let (s, _) ← readWords i g {} false words
  finish g s

/-- Read a command line. A mistake in the words of the command is reported before one in a value
that still waits before it. -/
def read (i : Interface) (words : List String) : Except Refusal Reading := do
  let (s, found) ← readWords i i.root {} false words
  match found.bind fun (name, rest) =>
      (i.commands.find? fun c => c.1 == name).map fun c => (name, c.2, rest) with
  | none => do
    let values ← finish i.root s
    return ⟨values, none⟩
  | some (name, command, rest) =>
    if name = helpCommand then helpFor i i.root rest
    else do
      let values ← i.readCommand command rest
      let s ← settle i.root s
      return ⟨s.values, some (name, values)⟩

end Interface

end BoundedTls.CommandLine
