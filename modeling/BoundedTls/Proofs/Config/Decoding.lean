import BoundedTls.Proofs.Config.Overlay

/-!
# Decoding makes an overlay

The decoder goes through a document once, in the order in which it is written, and changes the
settings entry by entry. What comes out is the overlay of the document, and something comes out
exactly if every known section and key has its form.

## Architecture

- **Decoders** accept exactly the values of one form.
- **Fields**: what a field stores and what it leaves alone (`Field.Stores`, `Field.Leaves`), and the
  field of a section that alone stores a part of the record (`Field.Owns`).
- **Assignments**: the entries of a table and the items of an array are both read as a list of
  assignments to fields (`assignAll`). Each field is assigned at most once; it keeps what its own
  assignment stores, and all others leave it.
-/

namespace BoundedTls.Config

open BoundedTls.Toml

/-! ## Decoders -/

theorem decodeText_eq_ok_iff {span : Span} {value : Node} {s : String} :
    decodeText span value = .ok s ↔ IsText value s := by
  unfold decodeText IsText
  split
  · simp
  · rename_i hother
    constructor
    · rintro ⟨⟩
    · rintro ⟨span, rfl⟩
      exact absurd rfl (hother _ _)

theorem decodeBoolean_eq_ok_iff {span : Span} {value : Node} {b : Bool} :
    decodeBoolean span value = .ok b ↔ IsBoolean value b := by
  unfold decodeBoolean IsBoolean
  split
  · simp
  · rename_i hother
    constructor
    · rintro ⟨⟩
    · rintro ⟨span, rfl⟩
      exact absurd rfl (hother _ _)

theorem decodeNumber_eq_ok_iff {form : Form} {span : Span} {value : Node} {n : UInt64} :
    decodeNumber form span value = .ok n ↔ IsNumber value n := by
  unfold decodeNumber IsNumber
  split
  · rename_i place m
    split
    · rename_i hlt
      constructor
      · rintro ⟨⟩
        exact ⟨place, by rw [UInt64.toNat_ofNat_of_lt' hlt]; rfl⟩
      · rintro ⟨_, heq⟩
        cases heq
        rw [UInt64.ofNat_toNat]
    · rename_i hlarge
      constructor
      · rintro ⟨⟩
      · rintro ⟨_, heq⟩
        cases heq
        exact absurd n.toNat_lt hlarge
  · rename_i hother
    constructor
    · rintro ⟨⟩
    · rintro ⟨span, rfl⟩
      exact absurd rfl (hother _ _)

/-! ## Fields -/

section

variable {σ α β : Type}

/-- The field puts what it reads into this part of the record. -/
def Field.Stores (f : Field σ) (get : σ → β) (reads : Node → β → Prop) : Prop :=
  ∀ s s' span value, f.assign s span value = .ok s' → reads value (get s')

/-- The field does not touch this part of the record. -/
def Field.Leaves (f : Field σ) (get : σ → β) : Prop :=
  ∀ s s' span value, f.assign s span value = .ok s' → get s' = get s

/-- The field takes the value, into whatever record. -/
def Field.Accepts (f : Field σ) (value : Node) : Prop :=
  ∀ s span, ∃ s', f.assign s span value = .ok s'

variable {name : String} {decode : Decoder α} {store : σ → α → σ}

@[simp] theorem field_name : (field name decode store).name = name := rfl

theorem field_assign_eq_ok_iff {s s' : σ} {span : Span} {value : Node} :
    (field name decode store).assign s span value = .ok s' ↔
      ∃ a, decode span value = .ok a ∧ store s a = s' := by
  simp only [field]
  cases decode span value with
  | error m => simp [Except.map]
  | ok a => simp [Except.map]

theorem field_leaves {get : σ → β} (h : ∀ s a, get (store s a) = get s) :
    (field name decode store).Leaves get := by
  intro s s' span value hassign
  obtain ⟨a, -, rfl⟩ := field_assign_eq_ok_iff.mp hassign
  exact h s a

theorem field_stores {get : σ → β} {reads : Node → β → Prop}
    (h : ∀ s span value a, decode span value = .ok a → reads value (get (store s a))) :
    (field name decode store).Stores get reads := by
  intro s s' span value hassign
  obtain ⟨a, ha, rfl⟩ := field_assign_eq_ok_iff.mp hassign
  exact h s span value a ha

theorem field_accepts {value : Node} (h : ∀ span, ∃ a, decode span value = .ok a) :
    (field name decode store).Accepts value := by
  intro s span
  obtain ⟨a, ha⟩ := h span
  exact ⟨store s a, field_assign_eq_ok_iff.mpr ⟨a, ha, rfl⟩⟩

end

section

variable {σ : Type} {name : String} {value : Node}

theorem accepts_text (store : σ → String → σ) (h : IsOf value .text) :
    (field name decodeText store).Accepts value := by
  obtain ⟨s, hs⟩ := h
  exact field_accepts fun _ => ⟨s, decodeText_eq_ok_iff.mpr hs⟩

theorem accepts_number {form : Form} (store : σ → UInt64 → σ) {n : UInt64} (h : IsNumber value n) :
    (field name (decodeNumber form) store).Accepts value :=
  field_accepts fun _ => ⟨n, decodeNumber_eq_ok_iff.mpr h⟩

theorem accepts_boolean (store : σ → Bool → σ) (h : IsOf value .boolean) :
    (field name decodeBoolean store).Accepts value := by
  obtain ⟨b, hb⟩ := h
  exact field_accepts fun _ => ⟨b, decodeBoolean_eq_ok_iff.mpr hb⟩

end

/-! ## Assignments -/

section

variable {σ β : Type}

/-- A field with a value that is read for it. -/
structure Assignment (σ : Type) where
  field : Field σ
  span : Span
  value : Node

def assignAll (s : σ) : List (Assignment σ) → Except Mismatch σ
  | [] => .ok s
  | a :: rest => (a.field.assign s a.span a.value).bind fun s => assignAll s rest

/-- The entries of a table whose keys are known. -/
def Assignment.ofEntries (fields : List (Field σ)) (entries : Entries) : List (Assignment σ) :=
  entries.filterMap fun entry =>
    (fields.find? fun f => f.name == entry.1.text).map fun f => ⟨f, entry.1.span, entry.2⟩

/-- The items of an array for which there are fields. -/
def Assignment.ofItems (span : Span) (fields : List (Field σ)) (items : List Node) :
    List (Assignment σ) :=
  List.zipWith (fun f value => ⟨f, value.span?.getD span, value⟩) fields items

theorem decodeEntries_eq (fields : List (Field σ)) (s : σ) (entries : Entries) :
    decodeEntries fields s entries = assignAll s (Assignment.ofEntries fields entries) := by
  induction entries generalizing s with
  | nil => rfl
  | cons entry rest ih =>
    obtain ⟨key, value⟩ := entry
    simp only [decodeEntries, Assignment.ofEntries, List.filterMap_cons] at ih ⊢
    cases fields.find? fun f => f.name == key.text with
    | none => exact ih s
    | some f => simp only [Option.map_some, assignAll, ih]

theorem decodeItems_eq (span : Span) (fields : List (Field σ)) (s : σ) (items : List Node) :
    decodeItems span s fields items = assignAll s (Assignment.ofItems span fields items) := by
  induction fields generalizing s items with
  | nil => rfl
  | cons f fields ih =>
    cases items with
    | nil => rfl
    | cons value rest => simp only [decodeItems, Assignment.ofItems, List.zipWith_cons_cons,
        assignAll, ih]

theorem bind_eq_ok_iff {ε α γ : Type} {x : Except ε α} {next : α → Except ε γ} {c : γ} :
    x.bind next = .ok c ↔ ∃ a, x = .ok a ∧ next a = .ok c := by
  cases x <;> simp [Except.bind]

/-- Assignments succeed together if each succeeds by itself. -/
theorem assignAll_isOk {as : List (Assignment σ)} (h : ∀ a ∈ as, a.field.Accepts a.value) (s : σ) :
    ∃ s', assignAll s as = .ok s' := by
  induction as generalizing s with
  | nil => exact ⟨s, rfl⟩
  | cons a rest ih =>
    obtain ⟨haccepts, hrest⟩ := List.forall_mem_cons.mp h
    obtain ⟨first, hfirst⟩ := haccepts s a.span
    obtain ⟨last, hlast⟩ := ih hrest first
    exact ⟨last, bind_eq_ok_iff.mpr ⟨first, hfirst, hlast⟩⟩

/-- **A field keeps what its own assignment stores.** -/
theorem assignAll_given {f : Field σ} {get : σ → β} {reads : Node → β → Prop}
    (hstores : f.Stores get reads) {as : List (Assignment σ)}
    (hown : ∀ a ∈ as, a.field.name = f.name → a.field = f)
    (hothers : ∀ a ∈ as, a.field.name ≠ f.name → a.field.Leaves get)
    (hnodup : (as.map fun a => a.field.name).Nodup) {s s' : σ} (h : assignAll s as = .ok s') :
    Given (fun value => ∃ a ∈ as, a.field.name = f.name ∧ a.value = value) reads (get s)
      (get s') := by
  induction as generalizing s with
  | nil =>
    cases h
    exact .default (by simp)
  | cons a rest ih =>
    obtain ⟨first, hfirst, hlast⟩ := bind_eq_ok_iff.mp h
    obtain ⟨hnew, hdistinct⟩ := List.nodup_cons.mp hnodup
    have hlater := ih (fun b hb => hown b (List.mem_cons_of_mem _ hb))
      (fun b hb => hothers b (List.mem_cons_of_mem _ hb)) hdistinct hlast
    by_cases hname : a.field.name = f.name
    · -- No later assignment is to the same field, so what is stored here stays.
      have hnone : ∀ value, ¬ ∃ b ∈ rest, b.field.name = f.name ∧ b.value = value := by
        rintro value ⟨b, hb, hsame, -⟩
        exact hnew (List.mem_map.mpr ⟨b, hb, hsame.trans hname.symm⟩)
      have hfield := hown a List.mem_cons_self hname
      rw [hfield] at hfirst
      have hstored := hstores s first a.span a.value hfirst
      rw [hlater.eq_default hnone]
      exact .read ⟨a, List.mem_cons_self, hname, rfl⟩ hstored
    · have hleft : get first = get s := hothers a List.mem_cons_self hname s first _ _ hfirst
      rw [hleft] at hlater
      exact hlater.congr fun value => by simp [hname]

end

/-! ## Sections -/

section

variable {σ β : Type} {fields : List (Field σ)}

/-- An assignment from a table is to a field of the section. -/
theorem mem_ofEntries {entries : Entries} {a : Assignment σ}
    (h : a ∈ Assignment.ofEntries fields entries) :
    a.field ∈ fields ∧ entries.Has a.field.name a.value := by
  obtain ⟨⟨key, value⟩, hentry, hassigned⟩ := List.mem_filterMap.mp h
  obtain ⟨f, hfind, rfl⟩ := Option.map_eq_some_iff.mp hassigned
  have hname : f.name = key.text := by simpa using List.find?_some hfind
  exact ⟨List.mem_of_find?_eq_some hfind, key, hentry, hname.symm⟩

theorem exists_ofEntries {entries : Entries} {f : Field σ} (hf : f ∈ fields) {value : Node}
    (h : entries.Has f.name value) :
    ∃ a ∈ Assignment.ofEntries fields entries, a.field.name = f.name ∧ a.value = value := by
  obtain ⟨key, hentry, hkey⟩ := h
  obtain ⟨g, hg⟩ : ∃ g, fields.find? (fun f => f.name == key.text) = some g := by
    apply Option.isSome_iff_exists.mp
    exact List.find?_isSome.mpr ⟨f, hf, by simp [hkey]⟩
  have hname : g.name = key.text := by simpa using List.find?_some hg
  refine ⟨⟨g, key.span, value⟩, List.mem_filterMap.mpr ⟨(key, value), hentry, ?_⟩,
    hname.trans hkey, rfl⟩
  simp [hg]

/-- Different keys are assigned to different fields. -/
theorem ofEntries_nodup {entries : Entries} (h : entries.Unambiguous) :
    ((Assignment.ofEntries fields entries).map fun a => a.field.name).Nodup := by
  -- The names are those keys of the table that are known.
  refine h.nodup.sublist ?_
  induction entries with
  | nil => exact .slnil
  | cons entry rest ih =>
    obtain ⟨key, value⟩ := entry
    have hrest := ih (Entries.unambiguous_cons.mp h).2.2
    simp only [Assignment.ofEntries, List.filterMap_cons] at hrest ⊢
    cases hfind : fields.find? fun f => f.name == key.text with
    | none => exact hrest.cons _
    | some f =>
      have hname : f.name = key.text := by simpa using List.find?_some hfind
      simpa [Entries.texts, hname] using hrest

theorem mem_ofItems_iff {span : Span} {items : List Node} {a : Assignment σ} :
    a ∈ Assignment.ofItems span fields items ↔
      ∃ place : Nat, fields[place]? = some a.field ∧ items[place]? = some a.value ∧
        a.span = a.value.span?.getD span := by
  simp only [Assignment.ofItems, List.mem_iff_getElem?, List.getElem?_zipWith]
  refine exists_congr fun place => ?_
  split
  · rename_i f value hf hvalue
    rw [hf, hvalue]
    constructor
    · rintro ⟨⟩
      exact ⟨rfl, rfl, rfl⟩
    · rintro ⟨⟨⟩, ⟨⟩, hspan⟩
      cases a
      simp_all
  · rename_i hnone
    constructor
    · rintro ⟨⟩
    · rintro ⟨hf, hvalue, -⟩
      exact (hnone _ _ hf hvalue).elim

theorem ofItems_nodup (hnames : (fields.map Field.name).Nodup) (span : Span) (items : List Node) :
    ((Assignment.ofItems span fields items).map fun a => a.field.name).Nodup := by
  -- The names are those of the first fields, as many as there are items.
  refine hnames.sublist ?_
  induction fields generalizing items with
  | nil => exact .slnil
  | cons f fields ih =>
    cases items with
    | nil => exact List.nil_sublist _
    | cons value rest => exact (ih (List.nodup_cons.mp hnames).2 rest).cons_cons _

/-- The field stands at this place of the section and alone stores this part of the record. -/
structure Field.Owns (f : Field σ) (fields : List (Field σ)) (place : Nat) (get : σ → β)
    (reads : Node → β → Prop) : Prop where
  names : (fields.map Field.name).Nodup
  there : fields[place]? = some f
  stores : f.Stores get reads
  others : ∀ g ∈ fields, g.name ≠ f.name → g.Leaves get

variable {place : Nat} {get : σ → β} {reads : Node → β → Prop} {f : Field σ} {s s' : σ}
  {span : Span}

theorem Field.Owns.mem (h : f.Owns fields place get reads) : f ∈ fields :=
  List.mem_of_getElem? h.there

theorem Field.Owns.eq_of_name (h : f.Owns fields place get reads) {g : Field σ} (hg : g ∈ fields)
    (hname : g.name = f.name) : g = f :=
  List.inj_on_of_nodup_map h.names hg h.mem hname

theorem decodeEntries_given (howns : f.Owns fields place get reads) {entries : Entries}
    (hentries : entries.Unambiguous) (h : decodeEntries fields s entries = .ok s') :
    Given (entries.Has f.name) reads (get s) (get s') := by
  rw [decodeEntries_eq] at h
  have hgiven := assignAll_given howns.stores
    (fun a ha => howns.eq_of_name (mem_ofEntries ha).1)
    (fun a ha => howns.others a.field (mem_ofEntries ha).1) (ofEntries_nodup hentries) h
  refine hgiven.congr fun value => ⟨?_, exists_ofEntries howns.mem⟩
  rintro ⟨a, ha, hname, rfl⟩
  exact hname ▸ (mem_ofEntries ha).2

theorem decodeItems_given (howns : f.Owns fields place get reads) {items : List Node}
    (h : decodeItems span s fields items = .ok s') :
    Given (fun value => items[place]? = some value) reads (get s) (get s') := by
  rw [decodeItems_eq] at h
  have hfield {a : Assignment σ} (ha : a ∈ Assignment.ofItems span fields items) :
      a.field ∈ fields := by
    obtain ⟨other, hother, -, -⟩ := mem_ofItems_iff.mp ha
    exact List.mem_of_getElem? hother
  have hgiven := assignAll_given howns.stores (fun a ha => howns.eq_of_name (hfield ha))
    (fun a ha => howns.others a.field (hfield ha)) (ofItems_nodup howns.names span items) h
  refine hgiven.congr fun value => ⟨?_, fun hvalue => ?_⟩
  · rintro ⟨a, ha, hname, rfl⟩
    obtain ⟨other, hother, hvalue, -⟩ := mem_ofItems_iff.mp ha
    -- The field stands at one place only, so the item is the one at that place.
    have hat : other = place := by
      have hlt : other < (fields.map Field.name).length := by
        simpa using (List.getElem?_eq_some_iff.mp hother).1
      exact (List.getElem?_inj hlt howns.names).mp (by simp [hother, howns.there, hname])
    exact hat ▸ hvalue
  · exact ⟨⟨f, value.span?.getD span, value⟩,
      mem_ofItems_iff.mpr ⟨place, howns.there, hvalue, rfl⟩, rfl, rfl⟩

/-- The section gives this record. Where complaints point to does not matter. -/
def Decoded (name : SectionName) (fields : List (Field σ)) (defaults : σ) (node : Node) (s : σ) :
    Prop :=
  ∃ span, decodeSection name fields defaults span node = .ok s

variable {name : SectionName} {defaults : σ} {node : Node}

theorem section_stores {τ : Type} {text : String} {store : τ → σ → τ} {get : τ → σ}
    (h : ∀ t s, get (store t s) = s) :
    (field text (decodeSection name fields defaults) store).Stores get
      (Decoded name fields defaults) :=
  field_stores fun t span _ s hs => ⟨span, by rw [h t s]; exact hs⟩

/-- **A section is read field by field**, over the defaults of the section. -/
theorem decodeSection_given (howns : f.Owns fields place get reads) (hnode : node.Unambiguous)
    (h : Decoded name fields defaults node s) :
    Given (node.Has place f.name) reads (get defaults) (get s) := by
  obtain ⟨span, h⟩ := h
  cases hnode with
  | @scalar _ value =>
    cases value with
    | dateTime =>
      -- A date has no keys, so all defaults stay.
      cases h
      exact .default fun _ hvalue => hvalue
    | text | integer | float | boolean => cases h
  | array | tables => exact decodeItems_given howns h
  | table hnodup hvalues => exact decodeEntries_given howns ⟨hnodup, hvalues⟩ h

theorem Decoded.isSection (h : Decoded name fields defaults node s) : IsSection node := by
  obtain ⟨span, h⟩ := h
  cases node with
  | scalar place value =>
    cases value with
    | dateTime => exact .dateTime place
    | text | integer | float | boolean => cases h
  | array place items => exact .array place items
  | tables place items => exact .tables place items
  | table info entries => exact .table info entries

theorem decodeEntries_isOk {entries : Entries}
    (h : ∀ f ∈ fields, ∀ value, entries.Has f.name value → f.Accepts value) (s : σ) :
    ∃ s', decodeEntries fields s entries = .ok s' := by
  rw [decodeEntries_eq]
  refine assignAll_isOk (fun a ha => ?_) s
  obtain ⟨hfield, hhas⟩ := mem_ofEntries ha
  exact h a.field hfield a.value hhas

theorem decodeItems_isOk {items : List Node}
    (h : ∀ (place : Nat) (f : Field σ), fields[place]? = some f →
      ∀ value, items[place]? = some value → f.Accepts value) (s : σ) :
    ∃ s', decodeItems span s fields items = .ok s' := by
  rw [decodeItems_eq]
  refine assignAll_isOk (fun a ha => ?_) s
  obtain ⟨place, hplace, hvalue, -⟩ := mem_ofItems_iff.mp ha
  exact h place a.field hplace a.value hvalue

theorem decodeSection_isOk (hsection : IsSection node)
    (h : ∀ (place : Nat) (f : Field σ), fields[place]? = some f →
      ∀ value, node.Has place f.name value → f.Accepts value) :
    ∃ s, decodeSection name fields defaults span node = .ok s := by
  cases hsection with
  | table info entries =>
    refine decodeEntries_isOk (fun f hf value hvalue => ?_) defaults
    obtain ⟨place, hplace⟩ := List.mem_iff_getElem?.mp hf
    exact h place f hplace value hvalue
  | array place items => exact decodeItems_isOk h defaults
  | tables place items => exact decodeItems_isOk h defaults
  | dateTime place => exact ⟨defaults, rfl⟩

end

/-! ## The four sections -/

section

variable {span : Span} {node : Node}

theorem decodeListener_given (hnode : node.Unambiguous) {s : ListenerSettings}
    (h : Decoded .listener ListenerSettings.fields {} node s) :
    Given (node.Has 0 "bind_address") IsText "127.0.0.1:8443" s.bindAddress ∧
      Given (node.Has 1 "max_connections") IsNumber 1024 s.maxConnections := by
  have haddress : Field.Owns _ ListenerSettings.fields 0 ListenerSettings.bindAddress IsText :=
    ⟨by decide, rfl, field_stores fun _ _ _ _ ha => decodeText_eq_ok_iff.mp ha,
      by simp [ListenerSettings.fields, field_leaves]⟩
  have hmax : Field.Owns _ ListenerSettings.fields 1 ListenerSettings.maxConnections IsNumber :=
    ⟨by decide, rfl, field_stores fun _ _ _ _ ha => decodeNumber_eq_ok_iff.mp ha,
      by simp [ListenerSettings.fields, field_leaves]⟩
  exact ⟨decodeSection_given haddress hnode h, decodeSection_given hmax hnode h⟩

theorem decodeHandshake_given (hnode : node.Unambiguous) {s : HandshakeSettings}
    (h : Decoded .handshake HandshakeSettings.fields {} node s) :
    Given (node.Has 0 "timeout_ms") IsNumber 5000 s.timeoutMs ∧
      Given (node.Has 1 "nodelay") IsBoolean true s.nodelay := by
  have htimeout : Field.Owns _ HandshakeSettings.fields 0 HandshakeSettings.timeoutMs IsNumber :=
    ⟨by decide, rfl, field_stores fun _ _ _ _ ha => decodeNumber_eq_ok_iff.mp ha,
      by simp [HandshakeSettings.fields, field_leaves]⟩
  have hnodelay : Field.Owns _ HandshakeSettings.fields 1 HandshakeSettings.nodelay IsBoolean :=
    ⟨by decide, rfl, field_stores fun _ _ _ _ ha => decodeBoolean_eq_ok_iff.mp ha,
      by simp [HandshakeSettings.fields, field_leaves]⟩
  exact ⟨decodeSection_given htimeout hnode h, decodeSection_given hnodelay hnode h⟩

theorem decodeTls_given (hnode : node.Unambiguous) {s : TlsSettings}
    (h : Decoded .tls TlsSettings.fields {} node s) :
    Given (node.Has 0 "cert_path") IsSetText none s.certPath ∧
      Given (node.Has 1 "key_path") IsSetText none s.keyPath ∧
      Given (node.Has 2 "ca_path") IsSetText none s.caPath ∧
      Given (node.Has 3 "server_name") IsSetText none s.serverName := by
  have hnames : (TlsSettings.fields.map Field.name).Nodup := by decide
  have hset {span : Span} {value : Node} {a : String} (ha : decodeText span value = .ok a) :
      IsSetText value (some a) := ⟨a, rfl, decodeText_eq_ok_iff.mp ha⟩
  have hcert : Field.Owns _ TlsSettings.fields 0 TlsSettings.certPath IsSetText :=
    ⟨hnames, rfl, field_stores fun _ _ _ _ ha => hset ha,
      by simp [TlsSettings.fields, field_leaves]⟩
  have hkey : Field.Owns _ TlsSettings.fields 1 TlsSettings.keyPath IsSetText :=
    ⟨hnames, rfl, field_stores fun _ _ _ _ ha => hset ha,
      by simp [TlsSettings.fields, field_leaves]⟩
  have hca : Field.Owns _ TlsSettings.fields 2 TlsSettings.caPath IsSetText :=
    ⟨hnames, rfl, field_stores fun _ _ _ _ ha => hset ha,
      by simp [TlsSettings.fields, field_leaves]⟩
  have hname : Field.Owns _ TlsSettings.fields 3 TlsSettings.serverName IsSetText :=
    ⟨hnames, rfl, field_stores fun _ _ _ _ ha => hset ha,
      by simp [TlsSettings.fields, field_leaves]⟩
  exact ⟨decodeSection_given hcert hnode h, decodeSection_given hkey hnode h,
    decodeSection_given hca hnode h, decodeSection_given hname hnode h⟩

theorem decodeLog_given (hnode : node.Unambiguous) {s : LogSettings}
    (h : Decoded .observability LogSettings.fields {} node s) :
    Given (node.Has 0 "log_level") IsText "info" s.level := by
  have hlevel : Field.Owns _ LogSettings.fields 0 LogSettings.level IsText :=
    ⟨by decide, rfl, field_stores fun _ _ _ _ ha => decodeText_eq_ok_iff.mp ha,
      by simp [LogSettings.fields]⟩
  exact decodeSection_given hlevel hnode h

theorem decodeListener_isOk (h : SectionName.listener.Fits node) :
    ∃ s, decodeSection .listener ListenerSettings.fields {} span node = .ok s := by
  refine decodeSection_isOk h.isSection fun place f hplace value hvalue => ?_
  match place with
  | 0 =>
    cases hplace
    exact accepts_text _ (h.keys 0 _ _ rfl value hvalue)
  | 1 =>
    cases hplace
    obtain ⟨n, hn⟩ := h.keys 1 _ _ rfl value hvalue
    exact accepts_number _ hn

theorem decodeHandshake_isOk (h : SectionName.handshake.Fits node) :
    ∃ s, decodeSection .handshake HandshakeSettings.fields {} span node = .ok s := by
  refine decodeSection_isOk h.isSection fun place f hplace value hvalue => ?_
  match place with
  | 0 =>
    cases hplace
    obtain ⟨n, hn⟩ := h.keys 0 _ _ rfl value hvalue
    exact accepts_number _ hn
  | 1 =>
    cases hplace
    exact accepts_boolean _ (h.keys 1 _ _ rfl value hvalue)

theorem decodeTls_isOk (h : SectionName.tls.Fits node) :
    ∃ s, decodeSection .tls TlsSettings.fields {} span node = .ok s := by
  refine decodeSection_isOk h.isSection fun place f hplace value hvalue => ?_
  match place with
  | 0 | 1 | 2 | 3 =>
    cases hplace
    exact accepts_text _ (h.keys _ _ _ rfl value hvalue)

theorem decodeLog_isOk (h : SectionName.observability.Fits node) :
    ∃ s, decodeSection .observability LogSettings.fields {} span node = .ok s := by
  refine decodeSection_isOk h.isSection fun place f hplace value hvalue => ?_
  match place with
  | 0 =>
    cases hplace
    exact accepts_text _ (h.keys 0 _ _ rfl value hvalue)

end

/-! ## The root -/

variable {doc : Entries}

theorem ofEntries_section {σ : Type} {name : SectionName} {fields : List (Field σ)} {defaults : σ}
    {store : Settings → σ → Settings} (place : Nat) (get : Settings → σ)
    (hfield : Settings.fields[place]? =
      some (field name.text (decodeSection name fields defaults) store))
    (hget : ∀ s section', get (store s section') = section')
    (hothers : ∀ g ∈ Settings.fields, g.name ≠ name.text → g.Leaves get) (hdoc : doc.Unambiguous)
    {s : Settings} (h : Settings.ofEntries doc = .ok s) :
    Given (doc.Has name.text) (Decoded name fields defaults) (get {}) (get s) := by
  have howns : Field.Owns _ Settings.fields place get (Decoded name fields defaults) :=
    ⟨by decide, hfield, section_stores hget, hothers⟩
  exact decodeEntries_given howns hdoc h

/-- What is decoded is an overlay. -/
theorem ofEntries_overlays (hdoc : doc.Unambiguous) {s : Settings}
    (h : Settings.ofEntries doc = .ok s) : Overlays doc s := by
  have hlistener : Given (doc.Has SectionName.listener.text)
      (Decoded .listener ListenerSettings.fields {}) {} s.listener :=
    ofEntries_section 0 Settings.listener rfl (fun _ _ => rfl)
      (by simp [Settings.fields, SectionName.text, field_leaves]) hdoc h
  have hhandshake : Given (doc.Has SectionName.handshake.text)
      (Decoded .handshake HandshakeSettings.fields {}) {} s.handshake :=
    ofEntries_section 1 Settings.handshake rfl (fun _ _ => rfl)
      (by simp [Settings.fields, SectionName.text, field_leaves]) hdoc h
  have htls : Given (doc.Has SectionName.tls.text)
      (Decoded .tls TlsSettings.fields {}) {} s.tls :=
    ofEntries_section 2 Settings.tls rfl (fun _ _ => rfl)
      (by simp [Settings.fields, SectionName.text, field_leaves]) hdoc h
  have hlog : Given (doc.Has SectionName.observability.text)
      (Decoded .observability LogSettings.fields {}) {} s.observability :=
    ofEntries_section 3 Settings.observability rfl (fun _ _ => rfl)
      (by simp [Settings.fields, SectionName.text, field_leaves]) hdoc h
  have hunique (name : String) (node node' : Node) : doc.Has name node → doc.Has name node' →
      node = node' := hdoc.has_unique
  exact {
    sections := fun name node hnode => by
      cases name with
      | listener => exact (hlistener.reads_of_there (hunique _) hnode).isSection
      | handshake => exact (hhandshake.reads_of_there (hunique _) hnode).isSection
      | tls => exact (htls.reads_of_there (hunique _) hnode).isSection
      | observability => exact (hlog.reads_of_there (hunique _) hnode).isSection
    bindAddress := hlistener.inField hdoc ListenerSettings.bindAddress
      fun _ hnode hs => (decodeListener_given hnode hs).1
    maxConnections := hlistener.inField hdoc ListenerSettings.maxConnections
      fun _ hnode hs => (decodeListener_given hnode hs).2
    timeoutMs := hhandshake.inField hdoc HandshakeSettings.timeoutMs
      fun _ hnode hs => (decodeHandshake_given hnode hs).1
    nodelay := hhandshake.inField hdoc HandshakeSettings.nodelay
      fun _ hnode hs => (decodeHandshake_given hnode hs).2
    certPath := htls.inField hdoc TlsSettings.certPath
      fun _ hnode hs => (decodeTls_given hnode hs).1
    keyPath := htls.inField hdoc TlsSettings.keyPath
      fun _ hnode hs => (decodeTls_given hnode hs).2.1
    caPath := htls.inField hdoc TlsSettings.caPath
      fun _ hnode hs => (decodeTls_given hnode hs).2.2.1
    serverName := htls.inField hdoc TlsSettings.serverName
      fun _ hnode hs => (decodeTls_given hnode hs).2.2.2
    level := hlog.inField hdoc LogSettings.level
      fun _ hnode hs => decodeLog_given hnode hs }

theorem ofEntries_isOk (h : WellTyped doc) : ∃ s, Settings.ofEntries doc = .ok s := by
  refine decodeEntries_isOk (fun f hf node hnode => ?_) _
  simp only [Settings.fields, List.mem_cons, List.not_mem_nil, or_false] at hf
  rcases hf with rfl | rfl | rfl | rfl
  · exact field_accepts fun _ => decodeListener_isOk (h .listener node hnode)
  · exact field_accepts fun _ => decodeHandshake_isOk (h .handshake node hnode)
  · exact field_accepts fun _ => decodeTls_isOk (h .tls node hnode)
  · exact field_accepts fun _ => decodeLog_isOk (h .observability node hnode)

/-- **Decoding makes the overlay**, if there is one. -/
theorem ofEntries_eq_ok_iff (hdoc : doc.Unambiguous) {s : Settings} :
    Settings.ofEntries doc = .ok s ↔ Overlays doc s := by
  constructor
  · exact ofEntries_overlays hdoc
  · intro h
    -- Something is decoded, and it is an overlay too; but there is only one.
    obtain ⟨s', hs'⟩ := ofEntries_isOk (h.wellTyped hdoc)
    rw [hs', (ofEntries_overlays hdoc hs').unique hdoc h]

/-- There is an overlay exactly of the documents whose known sections and keys have their forms. -/
theorem exists_overlay_iff (hdoc : doc.Unambiguous) : (∃ s, Overlays doc s) ↔ WellTyped doc := by
  constructor
  · rintro ⟨s, h⟩
    exact h.wellTyped hdoc
  · intro h
    obtain ⟨s, hs⟩ := ofEntries_isOk h
    exact ⟨s, ofEntries_overlays hdoc hs⟩

end BoundedTls.Config
