import BoundedTls.Log.Level

/-!
# Log filters

A filter decides which events are written. It is a list of rules; a rule speaks about all targets
or about those that begin with a given text, and lets events through down to a level. Of the
rules that speak about an event's target the most specific one decides, and of two rules for the
same targets the later one.

In its written form a filter is a list with commas between the rules. A rule is a level, a
target, or both with `=` between them; a target alone lets everything through.
-/

namespace BoundedTls.Log

open BoundedTls.Text

/-! ## Rules -/

/-- One rule of a filter. -/
structure Rule where
  /-- The text that the targets begin with; nothing for all targets. -/
  target : Option (List Char)
  /-- The most detailed level that passes; nothing if no event passes. -/
  limit : Option Level
deriving DecidableEq, Repr

namespace Rule

/-- The rule speaks about a target. -/
def concerns (r : Rule) (target : List Char) : Bool :=
  match r.target with
  | none => true
  | some start => start.isPrefixOf target

/-- How specific a rule is: the more of a target it names, the more. -/
def weight (r : Rule) : Nat :=
  match r.target with
  | none => 0
  | some start => start.length + 1

/-- The rule lets a level through. -/
def admits (r : Rule) (level : Level) : Bool :=
  r.limit.any fun limit => level.detail ≤ limit.detail

end Rule

/-- The heavier of two rules, the later one if they weigh the same. -/
def heavier : Option Rule → Rule → Option Rule
  | none, r => some r
  | some best, r => if best.weight ≤ r.weight then some r else some best

/-- A filter. -/
structure Filter where
  rules : List Rule
deriving DecidableEq, Repr

namespace Filter

/-- The rule that decides about a target. -/
def decisive? (f : Filter) (target : String) : Option Rule :=
  (f.rules.filter fun r => r.concerns target.toList).foldl heavier none

/-- The filter lets an event through; what no rule speaks about does not pass. -/
def passes (f : Filter) (target : String) (level : Level) : Bool :=
  (f.decisive? target).any fun r => r.admits level

/-- The filter that lets only errors through. -/
def errorsOnly : Filter :=
  ⟨[⟨none, some .error⟩]⟩

end Filter

/-! ## Written rules -/

/-- Why a text is not a rule. -/
inductive RuleFault where
  | malformed
  | unknownLevel
deriving DecidableEq, Repr

/-- The fault as a message. -/
def RuleFault.message : RuleFault → String
  | malformed => "invalid filter directive"
  | unknownLevel =>
    "error parsing level filter: expected one of \"off\", \"error\", \"warn\", \"info\", "
      ++ "\"debug\", \"trace\", or a number 0-5"

/-- The level of a number: none passes at zero, everything at five. -/
def limitOfNumber? (n : Nat) : Option (Option Level) :=
  if n = 0 then some none
  else (Level.all.find? fun level => level.detail == n).map some

/-- A number, which a plus sign may lead. -/
def numberOf? : List Char → Option Nat
  | '+' :: digits => readNumeral? digits
  | digits => readNumeral? digits

/-- What a text says about the levels that pass. -/
def limit? (s : List Char) : Option (Option Level) :=
  match (numberOf? s).bind limitOfNumber? with
  | some limit => some limit
  | none =>
    if asciiLower s == "off".toList then some none
    else (Level.ofName? (String.ofList s)).map some

/-- A character that is left out at the ends of a rule. -/
def isSpace (c : Char) : Bool :=
  let n := c.toNat
  (9 ≤ n && n ≤ 13) || n == 0x20 || n == 0x85 || n == 0xA0 || n == 0x1680
    || (0x2000 ≤ n && n ≤ 0x200A) || n == 0x2028 || n == 0x2029 || n == 0x202F || n == 0x205F
    || n == 0x3000

/-- A text without the spaces at its ends. -/
def trimmed (s : List Char) : List Char :=
  ((s.dropWhile isSpace).reverse.dropWhile isSpace).reverse

/-- A character that may begin a rule. Every character outside ASCII counts as a letter. -/
def beginsRule (c : Char) : Bool :=
  c.isAlphanum || c == '-' || c == ':' || c == '_' || 0x80 ≤ c.toNat

/-- The rule that a text denotes. The place of the first `=` is counted without the spaces at
the front of the text, but the parts are cut from the whole text. -/
def Rule.parse (s : List Char) : Except RuleFault Rule :=
  let inner := trimmed s
  if !inner.head?.any beginsRule then .error .malformed
  else
    let place := (inner.takeWhile (· != '=')).length
    if place = inner.length then
      match limit? s with
      | some limit => .ok ⟨none, limit⟩
      | none => .ok ⟨some s, some .trace⟩
    else
      let target := some (s.take place)
      match s.drop (place + 1) with
      | [] => .ok ⟨target, some .trace⟩
      | level =>
        match limit? level with
        | some limit => .ok ⟨target, limit⟩
        | none => .error .unknownLevel

/-- The written rules of a filter; empty ones do not count. -/
def ruleTexts (s : String) : List (List Char) :=
  (s.toList.splitOn ',').filter fun piece => !piece.isEmpty

/-! ## Filters of a program -/

namespace Filter

/-- The filter that the environment asks for; one bad rule spoils it. -/
def strict? (s : String) : Option Filter :=
  (((ruleTexts s).mapM Rule.parse).toOption).map Filter.mk

/-- The filter that the program asks for. Bad rules are left out, and without any rule only
errors pass. -/
def lenient (s : String) : Filter :=
  let rules := (ruleTexts s).filterMap fun piece => (Rule.parse piece).toOption
  if rules.isEmpty then errorsOnly else ⟨rules⟩

/-- A report about each rule that was left out. -/
def complaints (s : String) : List String :=
  (ruleTexts s).filterMap fun piece =>
    match Rule.parse piece with
    | .ok _ => none
    | .error fault => some ("ignoring `" ++ String.ofList piece ++ "`: " ++ fault.message)

end Filter

/-! ## The log of a process -/

/-- The log: silent until a filter is installed, which then stays. -/
structure Logger where
  filter : Option Filter := none
deriving DecidableEq, Repr

namespace Logger

/-- What came of an attempt to install a filter. -/
structure Installation where
  /-- The filter is the first one. -/
  installed : Bool
  /-- Lines about rules that were left out. -/
  complaints : List String
  logger : Logger
deriving DecidableEq, Repr

/-- Install the filter that the environment asks for, if it does and is understood, or else the
program's own. -/
def install (l : Logger) (environment : Option String) (directive : String) : Installation :=
  let (chosen, complaints) :=
    match environment.bind Filter.strict? with
    | some filter => (filter, [])
    | none => (Filter.lenient directive, Filter.complaints directive)
  match l.filter with
  | some _ => ⟨false, complaints, l⟩
  | none => ⟨true, complaints, ⟨some chosen⟩⟩

/-- The log writes an event of a target and a level. -/
def writes (l : Logger) (target : String) (level : Level) : Bool :=
  l.filter.any fun filter => filter.passes target level

end Logger

/-- The line for an event. -/
def line (level : Level) (target message : String) (fields : List (String × String)) : String :=
  let parts := (message :: fields.map fun (name, value) => name ++ "=" ++ value)
  level.label ++ " " ++ target ++ ": " ++ " ".intercalate parts

end BoundedTls.Log
