import BoundedTls.Proofs.Config.Consumers
import Mathlib.Data.List.Sort

/-!
# What validation reports

Settings are judged by six rules, and each rule that is broken is told of once. The report is read
by people and by the loader of settings, who name the sections at fault from it; so it has to hold
all that is wrong and nothing else, with the texts as they were written, and what is said of one
section must not depend on another.

## Architecture

- **Rules**: when settings break a rule, without the validator (`Settings.Breaks`).
- **Reports**: a list that tells of every broken rule once and in order (`Settings.Reports`).
  Settings have one report, and it is the one that validation gives.
- **Sections**: settings that agree in a section break the same rules there
  (`Settings.AgreeIn`), and the sections of a report stand in the order of the file.
-/

namespace BoundedTls.Config

open BoundedTls.Address BoundedTls.Text

/-! ## Rules -/

/-- The settings break a rule; the violation that tells of it carries the text at fault. -/
inductive Settings.Breaks (s : Settings) : Violation → Prop where
  | bindAddress :
      (∀ address, SocketAddress.parse? s.listener.bindAddress ≠ some address) →
      Breaks s (.badBindAddress s.listener.bindAddress)
  | maxConnections : s.listener.maxConnections = 0 → Breaks s .noConnections
  | timeout : s.handshake.timeoutMs = 0 → Breaks s .noTimeout
  | identity : ¬ (s.tls.certPath.isSome ↔ s.tls.keyPath.isSome) → Breaks s .halfIdentity
  | serverName {text : String} :
      s.tls.serverName = some text → (∀ name, ServerName.parse? text ≠ some name) →
      Breaks s (.badServerName text)
  /-- The text is none of the five names, in whatever letters. -/
  | logLevel :
      (∀ level : Log.Level, level.name.toList ≠ asciiLower s.observability.level.toList) →
      Breaks s (.badLogLevel s.observability.level)

/-- The place of a rule among the six. -/
def Violation.place : Violation → Nat
  | badBindAddress _ => 0
  | noConnections => 1
  | noTimeout => 2
  | halfIdentity => 3
  | badServerName _ => 4
  | badLogLevel _ => 5

/-- The rule of one violation comes before that of the other. -/
def Violation.Before (v w : Violation) : Prop :=
  v.place < w.place

instance : Std.Irrefl Violation.Before where
  irrefl := fun v => Nat.lt_irrefl v.place

instance : Std.Antisymm Violation.Before where
  antisymm := fun _ _ hlt hgt => absurd hgt (Nat.lt_asymm hlt)

namespace Settings

variable {s t : Settings} {v : Violation} {vs : List Violation}

/-- **Validation finds the rules that are broken.** -/
theorem mem_violations_iff : v ∈ s.violations ↔ s.Breaks v := by
  have haddress : s.hasBindAddress = false ↔
      ∀ address, SocketAddress.parse? s.listener.bindAddress ≠ some address := by
    simp [hasBindAddress, Option.eq_none_iff_forall_ne_some]
  have hidentity : s.hasWholeIdentity = false ↔
      ¬ (s.tls.certPath.isSome ↔ s.tls.keyPath.isSome) := by
    rw [hasWholeIdentity, beq_eq_false_iff_ne, ne_eq, Bool.eq_iff_iff]
  have hname (text : String) : s.badServerName? = some text ↔
      s.tls.serverName = some text ∧ ∀ name, ServerName.parse? text ≠ some name := by
    simp [badServerName?, Option.filter_eq_some_iff, Option.eq_none_iff_forall_ne_some]
  have hlevel : s.hasLogLevel = false ↔
      ∀ level : Log.Level, level.name.toList ≠ asciiLower s.observability.level.toList := by
    simp only [hasLogLevel, Option.isSome_eq_false_iff, Option.isNone_iff_eq_none,
      Option.eq_none_iff_forall_ne_some, ne_eq, Log.Level.ofName?_eq_some_iff]
  simp only [violations, List.mem_append, mem_unlessKept_iff, Option.mem_toList,
    Option.map_eq_some_iff, haddress, hidentity, hname, hlevel, bne_eq_false_iff_eq]
  constructor
  · rintro (((((⟨hbad, rfl⟩ | ⟨hzero, rfl⟩) | ⟨hzero, rfl⟩) | ⟨hhalf, rfl⟩) |
      ⟨text, ⟨hset, hbad⟩, rfl⟩) | ⟨hbad, rfl⟩)
    · exact .bindAddress hbad
    · exact .maxConnections hzero
    · exact .timeout hzero
    · exact .identity hhalf
    · exact .serverName hset hbad
    · exact .logLevel hbad
  · intro h
    cases h with
    | bindAddress hbad => simp [hbad]
    | maxConnections hzero => simp [hzero]
    | timeout hzero => simp [hzero]
    | identity hhalf => simp [hhalf]
    | serverName hset hbad => simp [hset, hbad]
    | logLevel hbad => simp [hbad]

/-! ## Reports -/

/-- The list tells of every rule that the settings break and of no other, of each once, and in the
order of the rules. -/
structure Reports (s : Settings) (vs : List Violation) : Prop where
  exact : ∀ v, v ∈ vs ↔ s.Breaks v
  ordered : vs.Pairwise Violation.Before

theorem violations_reports (s : Settings) : s.Reports s.violations where
  exact := fun _ => mem_violations_iff
  ordered := by
    -- Each rule adds its own violation at most, and the rules stand in order.
    unfold violations unlessKept
    cases s.badServerName? <;> (repeat' split) <;> simp [Violation.Before, Violation.place]

/-- **Settings have one report.** -/
theorem Reports.unique {ws : List Violation} (h : s.Reports vs) (h' : s.Reports ws) : vs = ws :=
  h.ordered.eq_of_mem_iff h'.ordered fun v => (h.exact v).trans (h'.exact v).symm

/-- Validation fails with the report, unless it is empty. -/
theorem validate_eq_error_iff : s.validate = .error vs ↔ vs ≠ [] ∧ s.Reports vs := by
  have hreport : s.violations = vs ↔ s.Reports vs :=
    ⟨fun h => h ▸ violations_reports s, (violations_reports s).unique⟩
  rw [← hreport]
  unfold validate
  split
  · rename_i hempty
    have hnone : s.violations = [] := by simpa using hempty
    simp [hnone]
  · rename_i hfound
    have hsome : s.violations ≠ [] := by simpa using hfound
    constructor
    · rintro ⟨⟩
      exact ⟨hsome, rfl⟩
    · rintro ⟨-, rfl⟩
      rfl

theorem validate_eq_ok_iff_breaks : s.validate = .ok () ↔ ∀ v, ¬ s.Breaks v := by
  rw [validate_eq_ok_iff, List.eq_nil_iff_forall_not_mem]
  exact forall_congr' fun v => not_congr mem_violations_iff

/-! ## Sections -/

/-- The settings are the same in one section. -/
def AgreeIn (n : SectionName) (s t : Settings) : Prop :=
  match n with
  | .listener => s.listener = t.listener
  | .handshake => s.handshake = t.handshake
  | .tls => s.tls = t.tls
  | .observability => s.observability = t.observability

theorem AgreeIn.symm {n : SectionName} (h : AgreeIn n s t) : AgreeIn n t s := by
  cases n <;> exact Eq.symm h

/-- A rule is about its own section. -/
theorem Breaks.congr (h : s.Breaks v) (hagree : AgreeIn v.inSection s t) : t.Breaks v := by
  cases h with
  | bindAddress hbad =>
    rw [show s.listener = t.listener from hagree] at hbad ⊢
    exact .bindAddress hbad
  | maxConnections hzero => exact .maxConnections (hagree ▸ hzero)
  | timeout hzero => exact .timeout (hagree ▸ hzero)
  | identity hhalf => exact .identity (hagree ▸ hhalf)
  | serverName hset hbad => exact .serverName (hagree ▸ hset) hbad
  | logLevel hbad =>
    rw [show s.observability = t.observability from hagree] at hbad ⊢
    exact .logLevel hbad

/-- What validation objects to. -/
def objections (s : Settings) : List Violation :=
  match s.validate with
  | .ok () => []
  | .error vs => vs

theorem objections_reports (s : Settings) : s.Reports s.objections := by
  unfold objections
  cases hresult : s.validate with
  | ok =>
    rw [← validate_eq_ok_iff.mp hresult]
    exact violations_reports s
  | error vs => exact (validate_eq_error_iff.mp hresult).2

/-- **What is reported of a section depends on that section alone.** -/
theorem objections_of_agree {n : SectionName} (h : AgreeIn n s t) :
    (s.objections.filter fun v => v.inSection = n) =
      t.objections.filter fun v => v.inSection = n := by
  refine (s.objections_reports.ordered.filter _).eq_of_mem_iff
    (t.objections_reports.ordered.filter _) fun v => ?_
  simp only [List.mem_filter, s.objections_reports.exact, t.objections_reports.exact,
    decide_eq_true_eq]
  constructor
  · rintro ⟨hbreaks, rfl⟩
    exact ⟨hbreaks.congr h, rfl⟩
  · rintro ⟨hbreaks, rfl⟩
    exact ⟨hbreaks.congr h.symm, rfl⟩

end Settings

/-! ## The sections of a report -/

/-- The sections in the order of the file. -/
def SectionName.all : List SectionName :=
  [listener, handshake, tls, observability]

/-- The place of a section in the file. -/
def SectionName.place : SectionName → Nat
  | listener => 0
  | handshake => 1
  | tls => 2
  | observability => 3

/-- The rules stand in the order of their sections. -/
theorem Violation.Before.section_le {v w : Violation} (h : v.Before w) :
    v.inSection.place ≤ w.inSection.place := by
  revert h
  cases v <;> cases w <;> simp [Before, place, inSection, SectionName.place]

section

variable {α : Type} [DecidableEq α]

/-- Going through the items adds those that were not seen before, in their order. -/
theorem firstAppearances_from (items seen : List α) :
    ∃ added, items.foldl (fun seen a => if a ∈ seen then seen else seen ++ [a]) seen =
        seen ++ added ∧ added.Sublist items ∧ (seen.Nodup → (seen ++ added).Nodup) := by
  -- What was seen grows on the way, so it is general.
  induction items generalizing seen with
  | nil => exact ⟨[], (List.append_nil seen).symm, .slnil, fun h => by simpa using h⟩
  | cons a items ih =>
    by_cases hseen : a ∈ seen
    · obtain ⟨added, heq, hsub, hnodup⟩ := ih seen
      exact ⟨added, by simpa [hseen] using heq, hsub.cons a, hnodup⟩
    · obtain ⟨added, heq, hsub, hnodup⟩ := ih (seen ++ [a])
      refine ⟨a :: added, by simpa [hseen] using heq, hsub.cons_cons a, fun h => ?_⟩
      have hgrown : (seen ++ [a]).Nodup := by
        simpa [List.nodup_append] using ⟨h, fun b hb hab => hseen (hab ▸ hb)⟩
      simpa using hnodup hgrown

theorem firstAppearances_sublist (items : List α) : (firstAppearances items).Sublist items := by
  obtain ⟨added, heq, hsub, -⟩ := firstAppearances_from items []
  rw [firstAppearances, heq]
  exact hsub

theorem firstAppearances_nodup (items : List α) : (firstAppearances items).Nodup := by
  obtain ⟨added, heq, -, hnodup⟩ := firstAppearances_from items []
  rw [firstAppearances, heq]
  exact hnodup List.nodup_nil

end

/-- **The sections of a report stand in the order of the file**, each once. -/
theorem Settings.Reports.failedSections_sublist {s : Settings} {vs : List Violation}
    (h : s.Reports vs) : (LoadError.invalid vs).failedSections.Sublist SectionName.all := by
  have : Std.Antisymm fun a b : SectionName => a.place ≤ b.place := by
    refine ⟨fun a b hle hge => ?_⟩
    have hplace := Nat.le_antisymm hle hge
    revert hplace
    cases a <;> cases b <;> simp [SectionName.place]
  have hfailed : (firstAppearances (vs.map Violation.inSection)).Pairwise
      fun a b => a.place ≤ b.place := by
    refine List.Pairwise.sublist (firstAppearances_sublist _) (List.pairwise_map.mpr ?_)
    exact h.ordered.imp Violation.Before.section_le
  have hall : SectionName.all.Pairwise fun a b => a.place ≤ b.place := by decide
  refine List.sublist_of_subperm_of_pairwise ?_ hfailed hall
  refine List.subperm_of_subset (firstAppearances_nodup _) fun n _ => ?_
  cases n <;> decide

/-! ## Every validation -/

/-- **Validation reports exactly what is broken.** Settings pass if they break no rule. Otherwise
validation fails with the one list that tells of every broken rule once, in the order of the rules
and with the text at fault as it was written. So what it objects to in a section depends on that
section alone, and the sections at fault stand in the order of the file. -/
theorem Settings.reports_exactly_what_is_broken (s : Settings) :
    (s.validate = .ok () ↔ ∀ v, ¬ s.Breaks v) ∧
      (∀ vs, s.validate = .error vs ↔ vs ≠ [] ∧ s.Reports vs) ∧
      (∀ t n, AgreeIn n s t → (s.objections.filter fun v => v.inSection = n) =
        t.objections.filter fun v => v.inSection = n) ∧
      ∀ vs, s.validate = .error vs →
        (LoadError.invalid vs).failedSections.Sublist SectionName.all := by
  refine ⟨validate_eq_ok_iff_breaks, fun vs => validate_eq_error_iff,
    fun t n => objections_of_agree, fun vs hfailed => ?_⟩
  exact (validate_eq_error_iff.mp hfailed).2.failedSections_sublist

/-- Two rules of different sections are broken. -/
example : ({ listener := { bindAddress := "nowhere" }
             tls := { certPath := some "chain.pem" } } : Settings).validate =
    .error [.badBindAddress "nowhere", .halfIdentity] := by
  decide +kernel

end BoundedTls.Config
