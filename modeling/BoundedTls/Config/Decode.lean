import BoundedTls.Config.Settings
import BoundedTls.Number.Shortest
import BoundedTls.Text.Quoted
import BoundedTls.Toml.Basic

/-!
# Settings from a document

Reads settings out of the value tree of a document. A section is a table of its keys or an array
of its values in order; unknown keys are ignored, and what is not set keeps its default. The
first value of the wrong form, in the order of the document, is the one that is reported.
-/

namespace BoundedTls.Config

open BoundedTls.Text BoundedTls.Toml

/-- The form that a setting must have. -/
inductive Form where
  /-- A natural number of 64 bits. -/
  | wide
  /-- A natural number that counts things in memory. -/
  | count
  | boolean
  | text
  | inSection (name : SectionName)
deriving DecidableEq, Repr

/-- The name of a form. -/
def Form.name : Form → String
  | wide => "u64"
  | count => "usize"
  | boolean => "a boolean"
  | text => "a string"
  | inSection .listener => "struct ListenerConfig"
  | inSection .handshake => "struct HandshakeConfig"
  | inSection .tls => "struct TlsConfig"
  | inSection .observability => "struct ObservabilityConfig"

/-- What stands where another form was expected. -/
inductive Found where
  | text (s : String)
  | integer (n : Int)
  | float (x : Number.Binary64)
  | boolean (b : Bool)
  | sequence
  | map
deriving DecidableEq, Repr

/-- The decimal form of an integer. -/
def integerText (n : Int) : String :=
  if n < 0 then "-" ++ numeral n.natAbs else numeral n.natAbs

/-- What was found, as part of a complaint. -/
def Found.name : Found → String
  | text s => "string " ++ quoted s
  | integer n => "integer `" ++ integerText n ++ "`"
  | float x => "floating point `" ++ x.render ++ "`"
  | boolean b => "boolean `" ++ (if b then "true" else "false") ++ "`"
  | sequence => "sequence"
  | map => "map"

/-- A value that does not have the form of its setting. -/
structure Mismatch where
  span : Span
  found : Found
  expected : Form
deriving DecidableEq, Repr

/-- The complaint about a mismatch: an integer where a number is due is a wrong value, anything
else has a wrong type. -/
def Mismatch.message (m : Mismatch) : String :=
  let complaint :=
    match m.found, m.expected with
    | .integer _, .wide | .integer _, .count => "invalid value: "
    | _, _ => "invalid type: "
  complaint ++ m.found.name ++ ", expected " ++ m.expected.name

/-- What a node is, for a complaint. -/
def Found.ofNode : Node → Found
  | .scalar _ (.text s) => text s
  | .scalar _ (.integer n) => integer n
  | .scalar _ (.float x) => float x
  | .scalar _ (.boolean b) => boolean b
  | .scalar _ .dateTime => map
  | .array _ _ => sequence
  | .table _ _ => map
  | .tables _ _ => sequence

/-- A reader of one setting. The span stands in where the node has no text of its own. -/
abbrev Decoder (α : Type) := Span → Node → Except Mismatch α

/-- The complaint that a node is not of the expected form. -/
def mismatch {α : Type} (expected : Form) : Decoder α := fun span node =>
  .error ⟨node.span?.getD span, Found.ofNode node, expected⟩

/-- A natural number of 64 bits. -/
def decodeNumber (expected : Form) : Decoder UInt64 := fun span node =>
  match node with
  | .scalar _ (.integer (.ofNat n)) =>
    if n < UInt64.size then .ok (UInt64.ofNat n) else mismatch expected span node
  | _ => mismatch expected span node

/-- A truth value. -/
def decodeBoolean : Decoder Bool := fun span node =>
  match node with
  | .scalar _ (.boolean b) => .ok b
  | _ => mismatch .boolean span node

/-- A text. -/
def decodeText : Decoder String := fun span node =>
  match node with
  | .scalar _ (.text s) => .ok s
  | _ => mismatch .text span node

/-! ## Sections -/

/-- A key of a section and how its value changes the section. -/
structure Field (σ : Type) where
  name : String
  assign : σ → Decoder σ

/-- A field whose value is read by `decode` and stored by `store`. -/
def field {σ α : Type} (name : String) (decode : Decoder α) (store : σ → α → σ) : Field σ :=
  ⟨name, fun s span node => (decode span node).map (store s)⟩

/-- Read the entries of a table into a section, in the order of the document. -/
def decodeEntries {σ : Type} (fields : List (Field σ)) (s : σ) : Entries → Except Mismatch σ
  | [] => .ok s
  | (key, node) :: rest =>
    match fields.find? fun f => f.name == key.text with
    | some f => (f.assign s key.span node).bind fun s => decodeEntries fields s rest
    | none => decodeEntries fields s rest

/-- Read the items of an array into the fields of a section, in the order of the fields. -/
def decodeItems {σ : Type} (span : Span) (s : σ) : List (Field σ) → List Node → Except Mismatch σ
  | f :: fields, node :: rest =>
    (f.assign s (node.span?.getD span) node).bind fun s => decodeItems span s fields rest
  | _, _ => .ok s

/-- Read a section over its defaults. A date counts as a table without known keys. -/
def decodeSection {σ : Type} (name : SectionName) (fields : List (Field σ)) (defaults : σ) :
    Decoder σ := fun span node =>
  match node with
  | .table _ entries => decodeEntries fields defaults entries
  | .array span items => decodeItems span defaults fields items
  | .tables place items => decodeItems (place.getD span) defaults fields items
  | .scalar _ .dateTime => .ok defaults
  | _ => mismatch (.inSection name) span node

/-- The fields of the listener section. -/
def ListenerSettings.fields : List (Field ListenerSettings) := [
  field "bind_address" decodeText fun s x => { s with bindAddress := x },
  field "max_connections" (decodeNumber .count) fun s x => { s with maxConnections := x }]

/-- The fields of the handshake section. -/
def HandshakeSettings.fields : List (Field HandshakeSettings) := [
  field "timeout_ms" (decodeNumber .wide) fun s x => { s with timeoutMs := x },
  field "nodelay" decodeBoolean fun s x => { s with nodelay := x }]

/-- The fields of the tls section. -/
def TlsSettings.fields : List (Field TlsSettings) := [
  field "cert_path" decodeText fun s x => { s with certPath := some x },
  field "key_path" decodeText fun s x => { s with keyPath := some x },
  field "ca_path" decodeText fun s x => { s with caPath := some x },
  field "server_name" decodeText fun s x => { s with serverName := some x }]

/-- The fields of the observability section. -/
def LogSettings.fields : List (Field LogSettings) := [
  field "log_level" decodeText fun s x => { s with level := x }]

/-- The sections of the settings. -/
def Settings.fields : List (Field Settings) := [
  field "listener" (decodeSection .listener ListenerSettings.fields {})
    fun s x => { s with listener := x },
  field "handshake" (decodeSection .handshake HandshakeSettings.fields {})
    fun s x => { s with handshake := x },
  field "tls" (decodeSection .tls TlsSettings.fields {})
    fun s x => { s with tls := x },
  field "observability" (decodeSection .observability LogSettings.fields {})
    fun s x => { s with observability := x }]

/-- The settings that the root table of a document makes. -/
def Settings.ofEntries (entries : Entries) : Except Mismatch Settings :=
  decodeEntries Settings.fields {} entries

end BoundedTls.Config
