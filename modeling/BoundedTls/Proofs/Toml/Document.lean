import BoundedTls.Proofs.Toml.Tables
import BoundedTls.Toml.Document

/-!
# Documents without repeated keys

The readers of values, lines and documents only ever fill tables by the operations of the builder.
What they yield is unambiguous, and so is every document: a key that stands twice in one table is
no document.
-/

namespace BoundedTls.Toml

/-! ## What a reader yields -/

namespace Scan

variable {α β : Type} {P : α → Prop} {Q : β → Prop}

/-- Whatever the reader finds has the property. -/
def Yields (P : α → Prop) (scan : Scan α) : Prop :=
  ∀ cursor a after, scan cursor = some (a, after) → P a

theorem yields_pure {a : α} (h : P a) : Yields P (pure a) := by
  rintro _ _ _ ⟨⟩
  exact h

theorem yields_refuse : Yields P refuse := by
  rintro _ _ _ ⟨⟩

theorem bind_eq_some {scan : Scan α} {next : α → Scan β} {cursor last : Cursor} {b : β} :
    (scan >>= next) cursor = some (b, last) ↔
      ∃ a after, scan cursor = some (a, after) ∧ next a after = some (b, last) := by
  simp only [bind, StateT.bind, Option.bind_eq_some_iff, Prod.exists]

/-- A reader that goes on with what another one has found. -/
theorem Yields.bind {scan : Scan α} {next : α → Scan β} (h : Yields P scan)
    (hnext : ∀ a, P a → Yields Q (next a)) : Yields Q (scan >>= next) := by
  intro cursor b last hscan
  obtain ⟨a, after, hfirst, hthen⟩ := bind_eq_some.mp hscan
  exact hnext a (h _ _ _ hfirst) _ _ _ hthen

/-- A reader that goes on, whatever the other one has found. -/
theorem yields_bind {scan : Scan α} {next : α → Scan β} (hnext : ∀ a, Yields Q (next a)) :
    Yields Q (scan >>= next) :=
  Yields.bind (P := fun _ => True) (fun _ _ _ _ => trivial) fun a _ => hnext a

theorem Yields.spanned {scan : Scan α} (h : Yields P scan) :
    Yields (fun found => P found.1) (spanned scan) :=
  yields_bind fun _ => h.bind fun _ ha => yields_bind fun _ => yields_pure ha

/-! ## Values -/

variable {item : Scan Node}

theorem arrayItems_yields (h : Yields Node.Unambiguous item) (bound : Nat) :
    Yields (fun items => ∀ node ∈ items, node.Unambiguous) (arrayItems item bound) := by
  induction bound with
  | zero => exact yields_refuse
  | succ bound ih =>
    refine yields_bind fun _ => yields_bind fun ahead => ?_
    split
    · exact yields_bind fun _ => yields_pure (by simp)
    · refine h.bind fun node hnode => yields_bind fun _ => yields_bind fun c => ?_
      split
      · exact ih.bind fun rest hrest => yields_pure (List.forall_mem_cons.mpr ⟨hnode, hrest⟩)
      · exact yields_pure (by simpa using hnode)
      · exact yields_refuse

theorem array_yields (h : Yields Node.Unambiguous item) :
    Yields (fun items => ∀ node ∈ items, node.Unambiguous) (array item) :=
  yields_bind fun _ => yields_bind fun bound => arrayItems_yields h bound

theorem inlinePair_yields (h : Yields Node.Unambiguous item) :
    Yields (fun pair => pair.2.2.Unambiguous) (inlinePair item) :=
  yields_bind fun _ => yields_bind fun _ => yields_bind fun _ => h.bind fun _ hnode =>
    yields_bind fun _ => yields_pure hnode

theorem inlinePairs_yields (h : Yields Node.Unambiguous item) {table : OpenTable}
    (htable : table.Unambiguous) (bound : Nat) :
    Yields OpenTable.Unambiguous (inlinePairs item table bound) := by
  -- Every pair goes into the table that the pairs before it have left.
  induction bound generalizing table with
  | zero => exact yields_refuse
  | succ bound ih =>
    refine (inlinePair_yields h).bind fun pair hvalue => ?_
    obtain ⟨path, key, value⟩ := pair
    simp only
    split
    · exact yields_refuse
    · rename_i table' hinsert
      have htable' : table'.Unambiguous := OpenTable.insert_unambiguous hinsert htable hvalue
      refine yields_bind fun c => ?_
      split
      · exact ih htable'
      · exact yields_pure htable'
      · exact yields_refuse

theorem inlineTable_yields (h : Yields Node.Unambiguous item) :
    Yields OpenTable.Unambiguous (inlineTable item) := by
  have hempty : OpenTable.Unambiguous ⟨⟨true, false, false, none⟩, []⟩ := Entries.unambiguous_nil
  refine yields_bind fun _ => yields_bind fun _ => yields_bind fun ahead => ?_
  split
  · exact yields_bind fun _ => yields_pure hempty
  · exact yields_bind fun bound => inlinePairs_yields h hempty bound

theorem leaf_yields : Yields Node.Unambiguous leaf := by
  refine yields_bind fun ahead => ?_
  split
  · exact yields_bind fun _ => yields_pure .scalar
  · exact yields_refuse

/-- **Every value is unambiguous**, by recursion on the depth to which it may nest. -/
theorem value_yields (depth : Nat) : Yields Node.Unambiguous (value depth) := by
  induction depth with
  | zero => exact leaf_yields
  | succ depth ih =>
    refine yields_bind fun ahead => ?_
    split
    · exact (array_yields ih).spanned.bind fun _ hitems => yields_pure (.array hitems)
    · exact (inlineTable_yields ih).spanned.bind fun _ htable =>
        yields_pure (.table htable.nodup htable.values)
    · exact leaf_yields

/-! ## Lines -/

variable {b : Builder}

theorem line_yields (h : b.Unambiguous) : Yields Builder.Unambiguous (line b) := by
  refine yields_bind fun _ => yields_bind fun _ => yields_bind fun _ =>
    (value_yields _).bind fun node hnode => yields_bind fun _ => ?_
  split
  · rename_i hadd
    exact yields_pure (Builder.addLine_unambiguous h hnode hadd)
  · exact yields_refuse

theorem header_yields (h : b.Unambiguous) : Yields Builder.Unambiguous (header b) := by
  refine yields_bind fun ahead => yields_bind fun name => yields_bind fun _ => ?_
  split
  · rename_i hopen
    split at hopen
    · exact yields_pure (Builder.openElement_unambiguous h hopen)
    · exact yields_pure (Builder.openTable_unambiguous h hopen)
  · exact yields_refuse

theorem lines_yields (h : b.Unambiguous) (bound : Nat) :
    Yields Builder.Unambiguous (lines b bound) := by
  -- Every line adds to what the lines before it have built.
  induction bound generalizing b with
  | zero => exact yields_refuse
  | succ bound ih =>
    refine yields_bind fun _ => yields_bind fun ahead => ?_
    split
    · exact yields_pure h
    · exact yields_bind fun _ => yields_bind fun _ => ih h
    · exact yields_bind fun _ => ih h
    · exact yields_bind fun _ => ih h
    · exact (header_yields h).bind fun _ hb => ih hb
    · exact (line_yields h).bind fun _ hb => ih hb

theorem document_yields : Yields Entries.Unambiguous document := by
  refine yields_bind fun _ => yields_bind fun bound =>
    (lines_yields Builder.start_unambiguous _).bind fun b hb => ?_
  split
  · rename_i hfinish
    exact yields_pure (Builder.finish_unambiguous hb hfinish)
  · exact yields_refuse

end Scan

/-- **No table of a document has two values under one key.** -/
theorem parse?_unambiguous {source : List Char} {doc : Entries} (h : parse? source = some doc) :
    doc.Unambiguous := by
  obtain ⟨⟨_, after⟩, hdocument, rfl⟩ := Option.map_eq_some_iff.mp h
  exact Scan.document_yields _ _ _ hdocument

end BoundedTls.Toml
