import BoundedTls.Config.Decode
import BoundedTls.Config.Violation
import BoundedTls.Fault.Basic
import BoundedTls.Text.Utf8
import BoundedTls.Toml.Document
import BoundedTls.Toml.Excerpt

/-!
# Loading settings

A settings file is read, laid over the defaults and validated. The first stage that fails decides
the error.
-/

namespace BoundedTls.Config

open BoundedTls.Text

/-- Why a document gives no settings. -/
inductive ParseFault where
  /-- The text is no document. -/
  | notADocument
  /-- A setting has the wrong form; the text shows the place. -/
  | mismatch (report : String)
deriving DecidableEq, Repr

/-- Why settings could not be loaded. -/
inductive LoadError where
  | io (fault : Fault)
  | parse (fault : ParseFault)
  | invalid (violations : List Violation)
deriving DecidableEq, Repr

/-- The items in the order of their first appearance, each once. -/
def firstAppearances {α : Type} [DecidableEq α] (items : List α) : List α :=
  items.foldl (fun seen a => if a ∈ seen then seen else seen ++ [a]) []

namespace LoadError

/-- The sections in which rules are broken, each once. -/
def failedSections : LoadError → List SectionName
  | invalid violations => firstAppearances (violations.map Violation.inSection)
  | _ => []

/-- The error as a message. -/
def message (e : LoadError) : String :=
  match e with
  | io fault => "IO error: " ++ fault.message
  | parse .notADocument => "Parse error"
  | parse (.mismatch report) => "Parse error: " ++ report
  | invalid violations =>
    "Invalid [" ++ "], [".intercalate (e.failedSections.map SectionName.text)
      ++ "] configuration: " ++ ", ".intercalate (violations.map Violation.message)

/-- The error with its kind and parts. The particulars of a document that cannot be read are
left out. -/
def describe : LoadError → String
  | io fault => "Io(" ++ fault.describe ++ ")"
  | parse _ => "Parse"
  | invalid violations =>
    "Validation([" ++ ", ".intercalate (violations.map Violation.describe) ++ "])"

end LoadError

/-- The settings that a document makes, not validated. -/
def Settings.ofDocument (source : List Char) : Except ParseFault Settings :=
  match Toml.parse? source with
  | none => .error .notADocument
  | some entries =>
    match Settings.ofEntries entries with
    | .ok settings => .ok settings
    | .error m => .error (.mismatch (Toml.excerpt source m.span m.message))

/-- The text of a file that was read. -/
def textOf (contents : Except Fault (List UInt8)) : Except Fault (List Char) :=
  match contents with
  | .error fault => .error fault
  | .ok bytes => match Utf8.decode? bytes with
    | some text => .ok text
    | none => .error .notUtf8

/-- Load settings from what reading a file gave. -/
def load (contents : Except Fault (List UInt8)) : Except LoadError Settings := do
  let text ← (textOf contents).mapError .io
  let settings ← (Settings.ofDocument text).mapError .parse
  settings.validate.mapError .invalid
  return settings

end BoundedTls.Config
