import BoundedTls.Proofs.Config.Messages
import Mathlib.Data.List.Induction

/-!
# The sections that fail

A list of broken rules has the sections in which they are broken: each once, in the order in which
they come up first. The message about the rules names these sections at its head and then tells of
every rule. Both hold of any list, also of one that no validation gives.

## Architecture

- **First appearances**: what one more item adds (`firstAppearances_snoc`), and from it by
  induction on the end of the list what is there and in which order.
- **Digests**: a list of sections that says where rules are broken (`Violation.Digest`). There is
  one for every list of rules.
- **Readings**: a text that names sections and tells of rules (`LoadError.Shows`). A message can be
  read in one way only.
-/

namespace BoundedTls.Config

open BoundedTls.Text

/-! ## First appearances -/

section

variable {α : Type} [DecidableEq α] {items : List α} {a : α}

/-- One more item is added at the end if it is new, and nothing else changes. -/
theorem firstAppearances_snoc (items : List α) (a : α) :
    firstAppearances (items ++ [a]) =
      if a ∈ firstAppearances items then firstAppearances items
      else firstAppearances items ++ [a] := by
  rw [firstAppearances, List.foldl_append]
  rfl

theorem mem_firstAppearances_iff : a ∈ firstAppearances items ↔ a ∈ items := by
  constructor
  · intro hmem
    exact (firstAppearances_sublist items).subset hmem
  · intro hmem
    induction items using List.reverseRecOn with
    | nil => cases hmem
    | append_singleton items b ih =>
      rw [firstAppearances_snoc]
      rcases List.mem_append.mp hmem with hbefore | hlast
      · split
        · exact ih hbefore
        · exact List.mem_append_left _ (ih hbefore)
      · rw [List.mem_singleton.mp hlast]
        split
        · assumption
        · exact List.mem_append_right _ (List.mem_singleton_self b)

/-- **The items stand in the order in which they come up first.** -/
theorem firstAppearances_ordered (items : List α) :
    (firstAppearances items).Pairwise fun a b => items.idxOf a < items.idxOf b := by
  -- The induction is on the end: an item that comes later does not move those before it.
  induction items using List.reverseRecOn with
  | nil => exact .nil
  | append_singleton items last ih =>
    have hkept : (firstAppearances items).Pairwise fun a b =>
        (items ++ [last]).idxOf a < (items ++ [last]).idxOf b := by
      apply ih.imp_of_mem
      intro a b ha hb hlt
      rwa [List.idxOf_append_of_mem (mem_firstAppearances_iff.mp ha),
        List.idxOf_append_of_mem (mem_firstAppearances_iff.mp hb)]
    rw [firstAppearances_snoc]
    split
    · exact hkept
    · -- A new item stands behind all others.
      rename_i hnew
      have hlast : last ∉ items := fun hmem => hnew (mem_firstAppearances_iff.mpr hmem)
      refine List.pairwise_append.mpr ⟨hkept, List.pairwise_singleton _ _, ?_⟩
      intro a ha b hb
      have hbefore : items.idxOf a < items.length :=
        List.idxOf_lt_length_of_mem (mem_firstAppearances_iff.mp ha)
      rw [List.mem_singleton.mp hb,
        List.idxOf_append_of_mem (mem_firstAppearances_iff.mp ha),
        List.idxOf_append_of_notMem hlast]
      omega

end

/-! ## Digests -/

theorem SectionName.text_injective : Function.Injective SectionName.text := by
  intro n m h
  revert h
  cases n <;> cases m <;> decide

namespace Violation

/-- The number of violations before the first one in a section. -/
def firstIn (vs : List Violation) (n : SectionName) : Nat :=
  vs.findIdx fun v => v.inSection == n

/-- The list says where rules are broken: it has the sections of the violations and no others, under
names that are all different, in the order in which they come up first. -/
structure Digest (vs : List Violation) (sections : List SectionName) : Prop where
  once : (sections.map SectionName.text).Nodup
  exact : ∀ n, n ∈ sections ↔ ∃ v ∈ vs, v.inSection = n
  ordered : sections.Pairwise fun n m => firstIn vs n < firstIn vs m

variable {vs : List Violation} {sections sections' : List SectionName}

theorem firstIn_eq (vs : List Violation) (n : SectionName) :
    firstIn vs n = (vs.map inSection).idxOf n := by
  rw [List.idxOf, List.findIdx_map]
  rfl

/-- **A list of violations has one digest.** -/
theorem Digest.unique (h : Digest vs sections) (h' : Digest vs sections') :
    sections = sections' := by
  have : Std.Irrefl fun n m => firstIn vs n < firstIn vs m := ⟨fun n => Nat.lt_irrefl _⟩
  have : Std.Antisymm fun n m => firstIn vs n < firstIn vs m :=
    ⟨fun n m hlt hgt => absurd hgt (Nat.lt_asymm hlt)⟩
  exact h.ordered.eq_of_mem_iff h'.ordered fun n => (h.exact n).trans (h'.exact n).symm

theorem failedSections_digest (vs : List Violation) :
    Digest vs (LoadError.invalid vs).failedSections where
  once := (firstAppearances_nodup _).map SectionName.text_injective
  exact := by
    intro n
    rw [LoadError.failedSections, mem_firstAppearances_iff]
    exact List.mem_map
  ordered := by
    simp only [firstIn_eq]
    exact firstAppearances_ordered _

end Violation

/-! ## Readings -/

/-- A text that lists items, one behind the other, with a separator between two of them. -/
inductive Lists (sep : String) : List String → String → Prop where
  | nothing : Lists sep [] ""
  | first (item : String) : Lists sep [item] item
  | next {items : List String} {text : String} (item : String) :
      items ≠ [] → Lists sep items text → Lists sep (items ++ [item]) (text ++ sep ++ item)

theorem lists_iff {sep : String} {items : List String} {text : String} :
    Lists sep items text ↔ text = sep.intercalate items := by
  constructor
  · intro h
    induction h with
    | nothing => exact String.intercalate_nil.symm
    | first item => exact String.intercalate_singleton.symm
    | next item hsome _ ih =>
      rw [String.intercalate_append_of_ne_nil hsome (List.cons_ne_nil _ _),
        String.intercalate_singleton, ih]
  · rintro rfl
    induction items using List.reverseRecOn with
    | nil => simpa using Lists.nothing
    | append_singleton items item ih =>
      by_cases hsome : items = []
      · rw [hsome, List.nil_append, String.intercalate_singleton]
        exact .first item
      · rw [String.intercalate_append_of_ne_nil hsome (List.cons_ne_nil _ _),
          String.intercalate_singleton]
        exact .next item hsome ih

/-- No name of a section is the beginning of another. -/
theorem SectionName.text_selfDelimiting : SelfDelimiting fun n : SectionName => n.text.toList := by
  apply SelfDelimiting.of_prefix_free
  intro n m
  cases n <;> cases m <;> (simp only [text]; decide)

theorem headerOf_injective : Function.Injective headerOf := by
  intro ns ms h
  have hlists := congrArg String.toList h
  simp only [headerOf, String.toList_append] at hlists
  have hnames := List.append_cancel_left (List.append_cancel_right hlists)
  simp only [String.toList_intercalate, List.map_map] at hnames
  refine SectionName.text_selfDelimiting.intercalate_inj ?_ hnames
  intro n
  cases n <;> (simp only [SectionName.text]; decide)

namespace LoadError

/-- The text names the sections in its header, and then tells of the violations. -/
inductive Shows (sections : List SectionName) (vs : List Violation) : String → Prop where
  | intro {names told : String} :
      Lists "], [" (sections.map SectionName.text) names →
      Lists ", " (vs.map Violation.message) told →
      Shows sections vs ("Invalid [" ++ names ++ "] configuration: " ++ told)

variable {vs ws : List Violation} {sections : List SectionName} {text : String}

theorem shows_iff : Shows sections vs text ↔ text = headerOf sections ++ (": " ++ body vs) := by
  have hcolon : "] configuration: " = "] configuration" ++ ": " := by decide
  constructor
  · rintro ⟨hnames, htold⟩
    rw [lists_iff.mp hnames, lists_iff.mp htold, headerOf, body, hcolon]
    simp only [String.append_assoc]
  · rintro rfl
    have hshows := Shows.intro (lists_iff.mpr rfl : Lists "], [" (sections.map SectionName.text) _)
      (lists_iff.mpr rfl : Lists ", " (vs.map Violation.message) _)
    rw [hcolon] at hshows
    simpa only [headerOf, body, String.append_assoc] using hshows

/-- **A message can be read in one way.** -/
theorem shows_message_iff :
    Shows sections ws (invalid vs).message ↔ sections = (invalid vs).failedSections ∧ ws = vs := by
  rw [shows_iff, message_invalid]
  constructor
  · intro h
    obtain ⟨hheader, hviolations⟩ := header_body_inj h
    exact ⟨(headerOf_injective hheader).symm, hviolations.symm⟩
  · rintro ⟨rfl, rfl⟩
    rfl

/-- **The failed sections are the first appearances.** For every list of violations, in whatever
order and with whatever repeats, they are the one digest of the list. One more violation adds its
section at the end if it is new, and changes nothing else. The message names these sections in this
order, tells of every violation once and in the order of the list, and can be read in no other way.
Errors of reading and of parsing have no failed sections. -/
theorem failed_sections_are_first_appearances (vs : List Violation) :
    (∀ sections, Violation.Digest vs sections ↔ sections = (invalid vs).failedSections) ∧
      (∀ v, (invalid (vs ++ [v])).failedSections =
        if v.inSection ∈ (invalid vs).failedSections then (invalid vs).failedSections
        else (invalid vs).failedSections ++ [v.inSection]) ∧
      (∀ sections ws, Shows sections ws (invalid vs).message ↔
        sections = (invalid vs).failedSections ∧ ws = vs) ∧
      (∀ fault, (io fault).failedSections = []) ∧ ∀ fault, (parse fault).failedSections = [] := by
  have hdigest : ∀ sections, Violation.Digest vs sections ↔
      sections = (invalid vs).failedSections := by
    intro sections
    constructor
    · intro h
      exact h.unique (Violation.failedSections_digest vs)
    · rintro rfl
      exact Violation.failedSections_digest vs
  have hsnoc : ∀ v, (invalid (vs ++ [v])).failedSections =
      if v.inSection ∈ (invalid vs).failedSections then (invalid vs).failedSections
      else (invalid vs).failedSections ++ [v.inSection] := by
    intro v
    rw [failedSections, List.map_append]
    exact firstAppearances_snoc _ _
  exact ⟨hdigest, hsnoc, fun _ _ => shows_message_iff, fun _ => rfl, fun _ => rfl⟩

/-- Rules of two sections, one of them broken twice. -/
example : (invalid [.halfIdentity, .noTimeout, .badServerName "a b"]).failedSections =
    [.tls, .handshake] := by
  decide

end LoadError

end BoundedTls.Config
