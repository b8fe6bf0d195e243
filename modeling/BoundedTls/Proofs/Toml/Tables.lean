import BoundedTls.Toml.Table

/-!
# Tables without repeated keys

However keys and headers fill the tables of a document, no table ever has two values under one
key. Every change to a table is a change of a single key, made by `Entries.alter`, at the end of a
walk, made by `OpenTable.descend`; so one fact about each of the two carries all operations of the
builder.
-/

namespace BoundedTls.Toml

/-! ## Unambiguous values -/

/-- No table in the value, however deep, has two values under one key. -/
inductive Node.Unambiguous : Node → Prop where
  | scalar {span : Span} {value : Scalar} : Unambiguous (.scalar span value)
  | array {span : Span} {items : List Node} :
      (∀ item ∈ items, item.Unambiguous) → Unambiguous (.array span items)
  | table {info : TableInfo} {entries : List (Key × Node)} :
      (entries.map fun entry => entry.1.text).Nodup →
      (∀ entry ∈ entries, entry.2.Unambiguous) → Unambiguous (.table info entries)
  | tables {span : Option Span} {items : List Node} :
      (∀ item ∈ items, item.Unambiguous) → Unambiguous (.tables span items)

namespace Entries

/-- The keys of a table. -/
def texts (entries : Entries) : List String :=
  entries.map fun entry => entry.1.text

/-- No key stands twice, neither here nor in any table inside. -/
structure Unambiguous (entries : Entries) : Prop where
  nodup : (texts entries).Nodup
  values : ∀ entry ∈ entries, entry.2.Unambiguous

theorem unambiguous_nil : Unambiguous [] :=
  ⟨List.nodup_nil, fun _ h => by cases h⟩

theorem unambiguous_cons {key : Key} {node : Node} {rest : Entries} :
    Unambiguous ((key, node) :: rest) ↔
      key.text ∉ texts rest ∧ node.Unambiguous ∧ Unambiguous rest := by
  constructor
  · rintro ⟨hnodup, hvalues⟩
    obtain ⟨hnew, hrest⟩ := List.nodup_cons.mp hnodup
    obtain ⟨hnode, hothers⟩ := List.forall_mem_cons.mp hvalues
    exact ⟨hnew, hnode, hrest, hothers⟩
  · rintro ⟨hnew, hnode, hrest, hothers⟩
    exact ⟨List.nodup_cons.mpr ⟨hnew, hrest⟩, List.forall_mem_cons.mpr ⟨hnode, hothers⟩⟩

/-- An entry with a new key may come last. -/
theorem Unambiguous.concat {entries : Entries} {key : Key} {node : Node} (h : Unambiguous entries)
    (hnew : key.text ∉ texts entries) (hnode : node.Unambiguous) :
    Unambiguous (entries ++ [(key, node)]) := by
  refine ⟨?_, ?_⟩
  · rw [texts, List.map_append]
    refine List.nodup_append.mpr ⟨h.nodup, by simp, ?_⟩
    rintro text htext _ hlast rfl
    simp only [List.map_cons, List.map_nil, List.mem_singleton] at hlast
    exact hnew (hlast ▸ htext)
  · intro entry hentry
    rcases List.mem_append.mp hentry with hold | hlast
    · exact h.values entry hold
    · rw [List.mem_singleton.mp hlast]
      exact hnode

theorem Unambiguous.filter {entries : Entries} (h : Unambiguous entries) (p : Key × Node → Bool) :
    Unambiguous (entries.filter p) :=
  ⟨h.nodup.sublist (List.filter_sublist.map _),
    fun entry hentry => h.values entry (List.mem_filter.mp hentry).1⟩

/-- The value under a key is one of the entries. -/
theorem mem_of_find? {entries : Entries} {name : String} {node : Node}
    (h : entries.find? name = some node) : ∃ key, (key, node) ∈ entries ∧ key.text = name := by
  obtain ⟨⟨key, found⟩, hfind, rfl⟩ := Option.map_eq_some_iff.mp h
  exact ⟨key, List.mem_of_find?_eq_some hfind, by simpa using List.find?_some hfind⟩

theorem notMem_texts_of_find? {entries : Entries} {name : String}
    (h : entries.find? name = none) : name ∉ texts entries := by
  intro hname
  obtain ⟨entry, hentry, htext⟩ := List.mem_map.mp hname
  have hnone := List.find?_eq_none.mp (Option.map_eq_none_iff.mp h) entry hentry
  simp [htext] at hnone

/-! ## Changing one key -/

section

variable {α : Type} {change : Option Node → Option (α × Node)}

/-- A change of one key leaves the other keys as they are. -/
theorem mem_texts_of_alter {entries entries' : Entries} {key : Key} {a : α}
    (h : alter entries key change = some (a, entries')) {name : String}
    (hname : name ∈ texts entries') : name ∈ texts entries ∨ name = key.text := by
  induction entries generalizing entries' with
  | nil =>
    obtain ⟨⟨_, node⟩, -, heq⟩ := Option.map_eq_some_iff.mp h
    cases heq
    exact Or.inr (by simpa [texts] using hname)
  | cons entry rest ih =>
    obtain ⟨k, old⟩ := entry
    unfold alter at h
    split at h
    · obtain ⟨⟨_, node⟩, -, heq⟩ := Option.map_eq_some_iff.mp h
      cases heq
      exact Or.inl hname
    · obtain ⟨⟨_, rest'⟩, hrest, heq⟩ := Option.map_eq_some_iff.mp h
      cases heq
      rcases List.mem_cons.mp hname with rfl | hlater
      · exact Or.inl List.mem_cons_self
      · exact (ih hrest hlater).imp_left (List.mem_cons_of_mem _)

/-- **A change of one key keeps a table unambiguous** if what it puts there is. What it yields
besides has every property that the change gives it. -/
theorem Unambiguous.alter {P : α → Prop} {entries entries' : Entries} {key : Key} {a : α}
    (h : Unambiguous entries)
    (hchange : ∀ old a node, (∀ n, old = some n → n.Unambiguous) → change old = some (a, node) →
      P a ∧ node.Unambiguous)
    (halter : Entries.alter entries key change = some (a, entries')) :
    P a ∧ Unambiguous entries' := by
  induction entries generalizing entries' with
  | nil =>
    obtain ⟨⟨_, node⟩, hput, heq⟩ := Option.map_eq_some_iff.mp halter
    cases heq
    obtain ⟨hyield, hnode⟩ := hchange none _ _ (by simp) hput
    exact ⟨hyield, unambiguous_cons.mpr ⟨by simp [texts], hnode, unambiguous_nil⟩⟩
  | cons entry rest ih =>
    obtain ⟨k, old⟩ := entry
    obtain ⟨hnew, hold, hrest⟩ := unambiguous_cons.mp h
    unfold Entries.alter at halter
    split at halter
    · obtain ⟨⟨_, node⟩, hput, heq⟩ := Option.map_eq_some_iff.mp halter
      cases heq
      obtain ⟨hyield, hnode⟩ := hchange (some old) _ _ (by rintro _ ⟨⟩; exact hold) hput
      exact ⟨hyield, unambiguous_cons.mpr ⟨hnew, hnode, hrest⟩⟩
    · rename_i hother
      obtain ⟨⟨_, rest'⟩, hlater, heq⟩ := Option.map_eq_some_iff.mp halter
      cases heq
      obtain ⟨hyield, hrest'⟩ := ih hrest hlater
      refine ⟨hyield, unambiguous_cons.mpr ⟨fun hmem => ?_, hold, hrest'⟩⟩
      rcases mem_texts_of_alter hlater hmem with hthere | hsame
      · exact hnew hthere
      · exact hother hsame

end

end Entries

/-! ## Walking to a table -/

namespace OpenTable

variable {α : Type} {P : α → Prop}

/-- The table is unambiguous so far. -/
def Unambiguous (t : OpenTable) : Prop :=
  t.entries.Unambiguous

theorem Unambiguous.close {t : OpenTable} (h : t.Unambiguous) : t.close.Unambiguous :=
  .table h.nodup h.values

theorem unambiguous_of_node {info : TableInfo} {entries : List (Key × Node)}
    (h : (Node.table info entries).Unambiguous) : (OpenTable.mk info entries).Unambiguous := by
  cases h with
  | table hnodup hvalues => exact ⟨hnodup, hvalues⟩

/-- An action on a table that keeps it unambiguous and yields what it should. -/
def Keeps (P : α → Prop) (act : OpenTable → Option (α × OpenTable)) : Prop :=
  ∀ {t a t'}, t.Unambiguous → act t = some (a, t') → P a ∧ t'.Unambiguous

theorem alterLast_unambiguous {change : Node → Option (α × Node)}
    (hchange : ∀ node a node', node.Unambiguous → change node = some (a, node') →
      P a ∧ node'.Unambiguous)
    {items items' : List Node} {a : α} (h : ∀ item ∈ items, item.Unambiguous)
    (halter : alterLast change items = some (a, items')) :
    P a ∧ ∀ item ∈ items', item.Unambiguous := by
  induction items using alterLast.induct generalizing items' with
  | case1 => cases halter
  | case2 last =>
    obtain ⟨⟨_, node⟩, hlast, heq⟩ := Option.map_eq_some_iff.mp halter
    cases heq
    obtain ⟨hyield, hnode⟩ := hchange last _ _ (h last List.mem_cons_self) hlast
    exact ⟨hyield, by simpa using hnode⟩
  | case3 node rest hrest ih =>
    rw [alterLast] at halter
    · obtain ⟨⟨_, rest'⟩, hlater, heq⟩ := Option.map_eq_some_iff.mp halter
      cases heq
      obtain ⟨hnode, hothers⟩ := List.forall_mem_cons.mp h
      obtain ⟨hyield, hrest'⟩ := ih hothers hlater
      exact ⟨hyield, List.forall_mem_cons.mpr ⟨hnode, hrest'⟩⟩
    · exact hrest

/-- **A walk keeps a table unambiguous** if the action at its end does. -/
theorem descend_keeps {inline dotted : Bool} {act : OpenTable → Option (α × OpenTable)}
    (hact : Keeps P act) (path : List Key) : Keeps P (descend inline dotted act path) := by
  induction path with
  | nil => exact hact
  | cons key path ih =>
    intro t a t' h hdescend
    -- Whatever table the walk enters, the rest of the walk keeps it unambiguous.
    have hinner {info : TableInfo} {entries : Entries} {a : α} {node : Node}
        (hthere : (OpenTable.mk info entries).Unambiguous)
        (hwalk : (descend inline dotted act path ⟨info, entries⟩).map
          (fun result => (result.1, result.2.close)) = some (a, node)) :
        P a ∧ node.Unambiguous := by
      obtain ⟨⟨_, after⟩, hafter, heq⟩ := Option.map_eq_some_iff.mp hwalk
      cases heq
      obtain ⟨hyield, hunambiguous⟩ := ih hthere hafter
      exact ⟨hyield, hunambiguous.close⟩
    simp only [descend, Option.bind_eq_bind, Option.bind_eq_some_iff] at hdescend
    obtain ⟨⟨_, entries⟩, halter, heq⟩ := hdescend
    cases heq
    refine h.alter ?_ halter
    rintro (_ | old) b node hold hput
    -- Nothing is there yet: the walk goes on in a new table.
    · exact hinner Entries.unambiguous_nil hput
    · have hnode : old.Unambiguous := hold old rfl
      cases old with
      | scalar | array => simp at hput
      | table info entries =>
        simp only at hput
        split at hput
        · cases hput
        · exact hinner (unambiguous_of_node hnode) hput
      | tables span items =>
        -- Of repeated tables only the last is entered, and the others stay.
        simp only at hput
        obtain ⟨⟨_, items'⟩, hlast, heq⟩ := Option.map_eq_some_iff.mp hput
        cases heq
        cases hnode with
        | tables hitems =>
          obtain ⟨hyield, hitems'⟩ := alterLast_unambiguous (fun item a item' hitem hchanged => by
            split at hchanged
            · exact hinner (unambiguous_of_node hitem) hchanged
            · cases hchanged) hitems hlast
          exact ⟨hyield, .tables hitems'⟩

/-- A value goes only where no value was. -/
theorem put_keeps {path : List Key} {key : Key} {value : Node} (hvalue : value.Unambiguous) :
    Keeps (fun _ => True) (put path key value) := by
  intro t _ t' h hput
  unfold put at hput
  split at hput
  · cases hput
  · obtain ⟨⟨_, entries⟩, halter, heq⟩ := Option.map_eq_some_iff.mp hput
    cases heq
    refine Entries.Unambiguous.alter (P := fun _ => True) h ?_ halter
    rintro (_ | old) _ node - hchange
    · cases hchange
      exact ⟨trivial, hvalue⟩
    · cases hchange

theorem insert_unambiguous {inline : Bool} {t t' : OpenTable} {path : List Key} {key : Key}
    {value : Node} (hinsert : t.insert inline path key value = some t') (h : t.Unambiguous)
    (hvalue : value.Unambiguous) : t'.Unambiguous := by
  obtain ⟨⟨_, after⟩, hwalk, rfl⟩ := Option.map_eq_some_iff.mp hinsert
  exact (descend_keeps (put_keeps hvalue) path h hwalk).2

end OpenTable

/-! ## Building a document -/

namespace Builder

open OpenTable

/-- Both parts of the document are unambiguous so far. -/
structure Unambiguous (b : Builder) : Prop where
  finished : b.finished.Unambiguous
  current : b.current.Unambiguous

theorem start_unambiguous : start.Unambiguous :=
  ⟨Entries.unambiguous_nil, Entries.unambiguous_nil⟩

/-- One more table joins the tables of its header. -/
theorem append_keeps {key : Key} {item : Node} (hitem : item.Unambiguous) :
    Keeps (fun _ => True) (append key item) := by
  intro t _ t' h happend
  obtain ⟨⟨_, entries⟩, halter, heq⟩ := Option.map_eq_some_iff.mp happend
  cases heq
  refine Entries.Unambiguous.alter (P := fun _ => True) h ?_ halter
  rintro (_ | old) _ node hold hchange
  · cases hchange
    exact ⟨trivial, .tables (by simpa using hitem)⟩
  · have hthere : old.Unambiguous := hold old rfl
    cases hthere with
    | scalar | array | table => cases hchange
    | tables hitems =>
      cases hchange
      refine ⟨trivial, .tables fun other hother => ?_⟩
      rcases List.mem_append.mp hother with hfirst | hlast
      · exact hitems other hfirst
      · rw [List.mem_singleton.mp hlast]
        exact hitem

theorem closeSection_unambiguous {b : Builder} (h : b.Unambiguous) {t : OpenTable}
    (hclose : b.closeSection = some t) : t.Unambiguous := by
  unfold closeSection at hclose
  split at hclose
  · cases hclose
    exact h.current
  · rename_i path key _
    obtain ⟨⟨_, after⟩, hwalk, rfl⟩ := Option.map_eq_some_iff.mp hclose
    refine (descend_keeps (P := fun _ => True) ?_ path h.finished hwalk).2
    intro parent _ parent' hparent hadd
    simp only at hadd
    split at hadd
    · cases hadd
    · rename_i hfree
      cases hadd
      -- The header is refused unless its key is still free.
      have hnew := Entries.notMem_texts_of_find? (Option.not_isSome_iff_eq_none.mp hfree)
      exact ⟨trivial, hparent.concat hnew h.current.close⟩
  · obtain ⟨⟨_, after⟩, hwalk, rfl⟩ := Option.map_eq_some_iff.mp hclose
    exact (descend_keeps (append_keeps h.current.close) _ h.finished hwalk).2

/-- What is taken out of a table is as unambiguous as what stays. -/
theorem takeImplicit_keeps (key : Key) : Keeps Entries.Unambiguous (takeImplicit key) := by
  intro t taken t' h htake
  unfold takeImplicit at htake
  split at htake
  · cases htake
    exact ⟨Entries.unambiguous_nil, h⟩
  · rename_i info entries hfind
    split at htake
    · cases htake
      obtain ⟨_, hmem, -⟩ := Entries.mem_of_find? hfind
      exact ⟨unambiguous_of_node (h.values _ hmem), h.filter _⟩
    · cases htake
  · cases htake

theorem reserve_keeps (key : Key) : Keeps (fun _ => True) (reserve key) := by
  intro t _ t' h hreserve
  unfold reserve at hreserve
  split at hreserve
  · rename_i hfree
    cases hreserve
    exact ⟨trivial, h.concat (Entries.notMem_texts_of_find? hfree) (.tables (by simp))⟩
  · cases hreserve
    exact ⟨trivial, h⟩
  · cases hreserve

theorem openTable_unambiguous {b b' : Builder} (h : b.Unambiguous) {path : List Key} {key : Key}
    {span : Span} (hopen : b.openTable path key span = some b') : b'.Unambiguous := by
  simp only [openTable, Option.bind_eq_bind, Option.bind_eq_some_iff] at hopen
  obtain ⟨finished, hclose, ⟨entries, after⟩, htake, heq⟩ := hopen
  cases heq
  obtain ⟨hentries, hafter⟩ :=
    descend_keeps (takeImplicit_keeps key) path (closeSection_unambiguous h hclose) htake
  exact ⟨hafter, hentries⟩

theorem openElement_unambiguous {b b' : Builder} (h : b.Unambiguous) {path : List Key} {key : Key}
    {span : Span} (hopen : b.openElement path key span = some b') : b'.Unambiguous := by
  simp only [openElement, Option.bind_eq_bind, Option.bind_eq_some_iff] at hopen
  obtain ⟨finished, hclose, ⟨_, after⟩, hreserve, heq⟩ := hopen
  cases heq
  exact ⟨(descend_keeps (reserve_keeps key) path (closeSection_unambiguous h hclose) hreserve).2,
    Entries.unambiguous_nil⟩

theorem addLine_unambiguous {b b' : Builder} (h : b.Unambiguous) {path : List Key} {key : Key}
    {value : Node} (hvalue : value.Unambiguous) (hadd : b.addLine path key value = some b') :
    b'.Unambiguous := by
  simp only [addLine, Option.bind_eq_bind, Option.bind_eq_some_iff] at hadd
  obtain ⟨current, hinsert, heq⟩ := hadd
  cases heq
  exact ⟨h.finished, OpenTable.insert_unambiguous hinsert h.current hvalue⟩

theorem finish_unambiguous {b : Builder} (h : b.Unambiguous) {entries : Entries}
    (hfinish : b.finish = some entries) : entries.Unambiguous := by
  obtain ⟨t, hclose, rfl⟩ := Option.map_eq_some_iff.mp hfinish
  exact closeSection_unambiguous h hclose

end Builder

end BoundedTls.Toml
