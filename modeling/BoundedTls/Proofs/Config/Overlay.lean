import Mathlib.Data.List.Nodup
import BoundedTls.Config.Decode
import BoundedTls.Proofs.Toml.Document

/-!
# Settings laid over their defaults

What it means that settings are a document laid over the defaults, said field by field and without
regard to the order in which the document is read: a field has the value that the document gives
for it, and its default where the document gives none.

## Architecture

- **Documents**: what a document has under a key (`Entries.Has`) and a section in a field
  (`Node.Has`), and the form that every known key must have (`WellTyped`).
- **Overlays**: `Overlays` says for each of the nine fields where its value comes from. A document
  without repeated keys has at most one overlay.
-/

namespace BoundedTls.Toml

/-! ## What a document has -/

/-- The table has this value under this key. -/
def Entries.Has (entries : Entries) (name : String) (value : Node) : Prop :=
  ∃ key, (key, value) ∈ entries ∧ key.text = name

/-- A section has this value in a field: under its key in a table, at its place in an array. -/
def Node.Has (node : Node) (place : Nat) (name : String) (value : Node) : Prop :=
  match node with
  | .table _ entries => Entries.Has entries name value
  | .array _ items | .tables _ items => items[place]? = some value
  | .scalar _ _ => False

/-- Without repeated keys, what a table has under a key is unique. -/
theorem Entries.Unambiguous.has_unique {entries : Entries} (h : entries.Unambiguous)
    {name : String} {value value' : Node} (hvalue : entries.Has name value)
    (hvalue' : entries.Has name value') : value = value' := by
  obtain ⟨key, hmem, rfl⟩ := hvalue
  obtain ⟨key', hmem', heq⟩ := hvalue'
  have hsame := List.inj_on_of_nodup_map h.nodup hmem hmem' heq.symm
  exact congrArg Prod.snd hsame

theorem Node.Unambiguous.has_unique {node : Node} (h : node.Unambiguous) {place : Nat}
    {name : String} {value value' : Node} (hvalue : node.Has place name value)
    (hvalue' : node.Has place name value') : value = value' := by
  cases h with
  | scalar => exact hvalue.elim
  | array | tables => exact Option.some.inj (hvalue.symm.trans hvalue')
  | table hnodup hvalues => exact Entries.Unambiguous.has_unique ⟨hnodup, hvalues⟩ hvalue hvalue'

theorem Entries.Unambiguous.of_has {entries : Entries} (h : entries.Unambiguous) {name : String}
    {value : Node} (hvalue : entries.Has name value) : value.Unambiguous := by
  obtain ⟨key, hmem, -⟩ := hvalue
  exact h.values _ hmem

end BoundedTls.Toml

namespace BoundedTls.Config

open BoundedTls.Toml

/-! ## Forms of values -/

def IsText (value : Node) (s : String) : Prop :=
  ∃ span, value = .scalar span (.text s)

def IsNumber (value : Node) (n : UInt64) : Prop :=
  ∃ span, value = .scalar span (.integer n.toNat)

def IsBoolean (value : Node) (b : Bool) : Prop :=
  ∃ span, value = .scalar span (.boolean b)

/-- A text in a field that may be unset. -/
def IsSetText (value : Node) (s : Option String) : Prop :=
  ∃ text, s = some text ∧ IsText value text

/-- A section is a table or an array. A date stands for a table without keys. -/
inductive IsSection : Node → Prop where
  | table (info : TableInfo) (entries : List (Key × Node)) : IsSection (.table info entries)
  | array (span : Span) (items : List Node) : IsSection (.array span items)
  | tables (span : Option Span) (items : List Node) : IsSection (.tables span items)
  | dateTime (span : Span) : IsSection (.scalar span .dateTime)

/-- The value has the form. -/
def IsOf (value : Node) : Form → Prop
  | .wide | .count => ∃ n, IsNumber value n
  | .boolean => ∃ b, IsBoolean value b
  | .text => ∃ s, IsText value s
  | .inSection _ => IsSection value

/-- The keys of a section in their order, and their forms. -/
def SectionName.keys : SectionName → List (String × Form)
  | listener => [("bind_address", .text), ("max_connections", .count)]
  | handshake => [("timeout_ms", .wide), ("nodelay", .boolean)]
  | tls => [("cert_path", .text), ("key_path", .text), ("ca_path", .text), ("server_name", .text)]
  | observability => [("log_level", .text)]

/-- A section whose known keys have their forms. -/
structure SectionName.Fits (name : SectionName) (node : Node) : Prop where
  isSection : IsSection node
  keys : ∀ place key form, name.keys[place]? = some (key, form) →
    ∀ value, node.Has place key value → IsOf value form

/-- Every known section and every known key in it has its form. -/
def WellTyped (doc : Entries) : Prop :=
  ∀ (name : SectionName) (node : Node), doc.Has name.text node → name.Fits node

/-! ## Overlays -/

/-- What is there gives the value; where nothing is there, the default stays. -/
inductive Given {β : Type} (there : Node → Prop) (reads : Node → β → Prop) (default : β) :
    β → Prop where
  | read {value : Node} {b : β} : there value → reads value b → Given there reads default b
  | default : (∀ value, ¬ there value) → Given there reads default default

/-- The document has this value in a field of a section. -/
def InField (doc : Entries) (name : SectionName) (place : Nat) (key : String) (value : Node) :
    Prop :=
  ∃ node, doc.Has name.text node ∧ node.Has place key value

/-- The settings are the document laid over the defaults. -/
structure Overlays (doc : Entries) (s : Settings) : Prop where
  sections : ∀ (name : SectionName) (node : Node), doc.Has name.text node → IsSection node
  bindAddress : Given (InField doc .listener 0 "bind_address") IsText "127.0.0.1:8443"
    s.listener.bindAddress
  maxConnections : Given (InField doc .listener 1 "max_connections") IsNumber 1024
    s.listener.maxConnections
  timeoutMs : Given (InField doc .handshake 0 "timeout_ms") IsNumber 5000 s.handshake.timeoutMs
  nodelay : Given (InField doc .handshake 1 "nodelay") IsBoolean true s.handshake.nodelay
  certPath : Given (InField doc .tls 0 "cert_path") IsSetText none s.tls.certPath
  keyPath : Given (InField doc .tls 1 "key_path") IsSetText none s.tls.keyPath
  caPath : Given (InField doc .tls 2 "ca_path") IsSetText none s.tls.caPath
  serverName : Given (InField doc .tls 3 "server_name") IsSetText none s.tls.serverName
  level : Given (InField doc .observability 0 "log_level") IsText "info" s.observability.level

/-- The document gives this scalar in a field, wherever it stands in the text. -/
def Gives (doc : Entries) (name : SectionName) (place : Nat) (key : String) (content : Scalar) :
    Prop :=
  ∃ span, InField doc name place key (.scalar span content)

/-- Both documents give the same for every known key, in whatever order, and whatever else they
say. -/
def SameFields (doc doc' : Entries) : Prop :=
  ∀ (name : SectionName) (place : Nat) (key : String) (form : Form),
    name.keys[place]? = some (key, form) →
      ∀ content, Gives doc name place key content ↔ Gives doc' name place key content

/-! ## One overlay -/

/-- Only scalars are read, and where they stand does not matter. -/
structure ReadsScalars {β : Type} (reads : Node → β → Prop) : Prop where
  scalar : ∀ {value b}, reads value b → ∃ span content, value = .scalar span content
  unique : ∀ {span span' content b b'}, reads (.scalar span content) b →
    reads (.scalar span' content) b' → b = b'

theorem isText_readsScalars : ReadsScalars IsText where
  scalar := fun ⟨span, h⟩ => ⟨span, _, h⟩
  unique := by
    rintro _ _ _ _ _ ⟨_, ⟨⟩⟩ ⟨_, ⟨⟩⟩
    rfl

theorem isNumber_readsScalars : ReadsScalars IsNumber where
  scalar := fun ⟨span, h⟩ => ⟨span, _, h⟩
  unique := by
    rintro _ _ _ n n' ⟨_, ⟨⟩⟩ ⟨_, h⟩
    simp only [Node.scalar.injEq, Scalar.integer.injEq] at h
    exact UInt64.toNat_inj.mp (by omega)

theorem isBoolean_readsScalars : ReadsScalars IsBoolean where
  scalar := fun ⟨span, h⟩ => ⟨span, _, h⟩
  unique := by
    rintro _ _ _ _ _ ⟨_, ⟨⟩⟩ ⟨_, ⟨⟩⟩
    rfl

theorem isSetText_readsScalars : ReadsScalars IsSetText where
  scalar := fun ⟨_, _, htext⟩ => isText_readsScalars.scalar htext
  unique := by
    rintro _ _ _ _ _ ⟨text, rfl, htext⟩ ⟨text', rfl, htext'⟩
    rw [isText_readsScalars.unique htext htext']

section

variable {β : Type} {there there' : Node → Prop} {reads : Node → β → Prop} {default b b' : β}

theorem Given.unique (hreads : ReadsScalars reads)
    (hsame : ∀ content, (∃ span, there (.scalar span content)) ↔
      ∃ span, there' (.scalar span content))
    (hunique : ∀ value value', there' value → there' value' → value = value')
    (h : Given there reads default b) (h' : Given there' reads default b') : b = b' := by
  cases h with
  | read hvalue hb =>
    -- What is read on one side is there on the other, if at another place of the text.
    obtain ⟨span, content, rfl⟩ := hreads.scalar hb
    obtain ⟨span', hthere⟩ := (hsame content).mp ⟨span, hvalue⟩
    cases h' with
    | read hvalue' hb' =>
      rw [hunique _ _ hvalue' hthere] at hb'
      exact hreads.unique hb hb'
    | default hnone => exact absurd hthere (hnone _)
  | default hnone =>
    cases h' with
    | read hvalue' hb' =>
      obtain ⟨span', content, rfl⟩ := hreads.scalar hb'
      obtain ⟨span, hthere⟩ := (hsame content).mpr ⟨span', hvalue'⟩
      exact absurd hthere (hnone _)
    | default => rfl

theorem Given.eq_default (hnone : ∀ value, ¬ there value) (h : Given there reads default b) :
    b = default := by
  cases h with
  | read hvalue _ => exact absurd hvalue (hnone _)
  | default => rfl

theorem Given.reads_of_there (hunique : ∀ value value', there value → there value' → value = value')
    (h : Given there reads default b) {value : Node} (hvalue : there value) : reads value b := by
  cases h with
  | read hfound hb => exact hunique _ _ hfound hvalue ▸ hb
  | default hnone => exact absurd hvalue (hnone _)

theorem Given.congr (hiff : ∀ value, there value ↔ there' value)
    (h : Given there reads default b) : Given there' reads default b := by
  cases h with
  | read hvalue hb => exact .read ((hiff _).mp hvalue) hb
  | default hnone => exact .default fun value hvalue => hnone value ((hiff _).mpr hvalue)

end

section

variable {doc doc' : Entries}

theorem inField_unique (h : doc.Unambiguous) {name : SectionName} {place : Nat} {key : String}
    (value value' : Node) (hvalue : InField doc name place key value)
    (hvalue' : InField doc name place key value') : value = value' := by
  obtain ⟨node, hnode, hhas⟩ := hvalue
  obtain ⟨node', hnode', hhas'⟩ := hvalue'
  cases h.has_unique hnode hnode'
  exact (h.of_has hnode).has_unique hhas hhas'

/-- **Only what is given for the known keys counts**: not the order, and nothing else. -/
theorem Overlays.eq_of_sameFields (hdoc' : doc'.Unambiguous) (hsame : SameFields doc doc')
    {s s' : Settings} (h : Overlays doc s) (h' : Overlays doc' s') : s = s' := by
  obtain ⟨⟨address, max⟩, ⟨timeout, nodelay⟩, ⟨cert, key, ca, name⟩, ⟨level⟩⟩ := s
  obtain ⟨⟨address', max'⟩, ⟨timeout', nodelay'⟩, ⟨cert', key', ca', name'⟩, ⟨level'⟩⟩ := s'
  cases h.bindAddress.unique isText_readsScalars (hsame .listener 0 _ _ rfl)
    (inField_unique hdoc') h'.bindAddress
  cases h.maxConnections.unique isNumber_readsScalars (hsame .listener 1 _ _ rfl)
    (inField_unique hdoc') h'.maxConnections
  cases h.timeoutMs.unique isNumber_readsScalars (hsame .handshake 0 _ _ rfl)
    (inField_unique hdoc') h'.timeoutMs
  cases h.nodelay.unique isBoolean_readsScalars (hsame .handshake 1 _ _ rfl)
    (inField_unique hdoc') h'.nodelay
  cases h.certPath.unique isSetText_readsScalars (hsame .tls 0 _ _ rfl)
    (inField_unique hdoc') h'.certPath
  cases h.keyPath.unique isSetText_readsScalars (hsame .tls 1 _ _ rfl)
    (inField_unique hdoc') h'.keyPath
  cases h.caPath.unique isSetText_readsScalars (hsame .tls 2 _ _ rfl)
    (inField_unique hdoc') h'.caPath
  cases h.serverName.unique isSetText_readsScalars (hsame .tls 3 _ _ rfl)
    (inField_unique hdoc') h'.serverName
  cases h.level.unique isText_readsScalars (hsame .observability 0 _ _ rfl)
    (inField_unique hdoc') h'.level
  rfl

/-- A document has at most one overlay. -/
theorem Overlays.unique (hdoc : doc.Unambiguous) {s s' : Settings} (h : Overlays doc s)
    (h' : Overlays doc s') : s = s' :=
  h.eq_of_sameFields hdoc (fun _ _ _ _ _ _ => Iff.rfl) h'

/-- What is given for a section as a whole is given for its fields. -/
theorem Given.inField {σ β : Type} (hdoc : doc.Unambiguous) {name : SectionName}
    {decoded : Node → σ → Prop} {default s : σ} (h : Given (doc.Has name.text) decoded default s)
    {place : Nat} {key : String} {reads : Node → β → Prop} (get : σ → β)
    (hinner : ∀ node, node.Unambiguous → decoded node s →
      Given (node.Has place key) reads (get default) (get s)) :
    Given (InField doc name place key) reads (get default) (get s) := by
  cases h with
  | read hnode hdecoded =>
    refine (hinner _ (hdoc.of_has hnode) hdecoded).congr fun value => ⟨fun h => ⟨_, hnode, h⟩, ?_⟩
    rintro ⟨node', hnode', hvalue⟩
    exact hdoc.has_unique hnode' hnode ▸ hvalue
  | default hnone =>
    refine .default ?_
    rintro value ⟨node, hnode, -⟩
    exact hnone node hnode

/-- An overlay needs every known section and key to have its form. -/
theorem Overlays.wellTyped (hdoc : doc.Unambiguous) {s : Settings} (h : Overlays doc s) :
    WellTyped doc := by
  intro name node hnode
  refine ⟨h.sections name node hnode, fun place key form hkey value hvalue => ?_⟩
  have hfield : InField doc name place key value := ⟨node, hnode, hvalue⟩
  have hunique {name place key} := @inField_unique doc hdoc name place key
  -- The place picks one of the keys of the section, and with it a field of the overlay.
  cases name with
  | listener =>
    match place with
    | 0 => cases hkey; exact ⟨_, h.bindAddress.reads_of_there hunique hfield⟩
    | 1 => cases hkey; exact ⟨_, h.maxConnections.reads_of_there hunique hfield⟩
  | handshake =>
    match place with
    | 0 => cases hkey; exact ⟨_, h.timeoutMs.reads_of_there hunique hfield⟩
    | 1 => cases hkey; exact ⟨_, h.nodelay.reads_of_there hunique hfield⟩
  | tls =>
    match place with
    | 0 =>
      cases hkey
      obtain ⟨text, -, htext⟩ := h.certPath.reads_of_there hunique hfield
      exact ⟨text, htext⟩
    | 1 =>
      cases hkey
      obtain ⟨text, -, htext⟩ := h.keyPath.reads_of_there hunique hfield
      exact ⟨text, htext⟩
    | 2 =>
      cases hkey
      obtain ⟨text, -, htext⟩ := h.caPath.reads_of_there hunique hfield
      exact ⟨text, htext⟩
    | 3 =>
      cases hkey
      obtain ⟨text, -, htext⟩ := h.serverName.reads_of_there hunique hfield
      exact ⟨text, htext⟩
  | observability =>
    match place with
    | 0 => cases hkey; exact ⟨_, h.level.reads_of_there hunique hfield⟩

end

end BoundedTls.Config
