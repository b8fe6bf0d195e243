import BoundedTls.Proofs.Config.Decoding
import BoundedTls.Proofs.Config.Validation

/-!
# Loading is reading, overlaying and validating

A file gives settings if its bytes are text, the text is a document whose known sections and keys
have their forms, and the overlay of the document breaks no rule. Each stage that fails has its own
error, and the first one that fails decides.
-/

namespace BoundedTls.Config

open BoundedTls.Text BoundedTls.Toml

variable {contents : Except Fault (List UInt8)} {text : List Char} {s : Settings}

/-! ## Stages -/

/-- The file was read, and it holds this text. -/
def Reads (contents : Except Fault (List UInt8)) (text : List Char) : Prop :=
  ∃ bytes, contents = .ok bytes ∧ Utf8.decode? bytes = some text

theorem textOf_eq_ok_iff : textOf contents = .ok text ↔ Reads contents text := by
  unfold textOf Reads
  cases contents with
  | error fault => simp
  | ok bytes => cases hdecode : Utf8.decode? bytes <;> simp [hdecode]

/-- A file that could not be read fails by its own fault, and one that is no text by another. -/
theorem textOf_eq_error_iff {fault : Fault} :
    textOf contents = .error fault ↔ contents = .error fault ∨
      ∃ bytes, contents = .ok bytes ∧ Utf8.decode? bytes = none ∧ fault = .notUtf8 := by
  unfold textOf
  cases contents with
  | error fault' => simp
  | ok bytes => cases hdecode : Utf8.decode? bytes <;> simp [hdecode, eq_comm]

/-- The text is a document, and the settings are its overlay. -/
theorem ofDocument_eq_ok_iff :
    Settings.ofDocument text = .ok s ↔ ∃ doc, parse? text = some doc ∧ Overlays doc s := by
  unfold Settings.ofDocument
  cases hparse : parse? text with
  | none => simp
  | some doc =>
    have hoverlay := ofEntries_eq_ok_iff (s := s) (parse?_unambiguous hparse)
    cases hdecoded : Settings.ofEntries doc with
    | ok decoded | error m =>
      rw [hdecoded] at hoverlay
      simpa [hdecoded] using hoverlay

theorem ofDocument_fails_iff : (∃ fault, Settings.ofDocument text = .error fault) ↔
    ∀ doc, parse? text = some doc → ¬ WellTyped doc := by
  have hsettings : (∃ fault, Settings.ofDocument text = .error fault) ↔
      ¬ ∃ s, Settings.ofDocument text = .ok s := by
    cases Settings.ofDocument text <;> simp
  rw [hsettings]
  constructor
  · intro hnone doc hparse htyped
    obtain ⟨s, hs⟩ := (exists_overlay_iff (parse?_unambiguous hparse)).mpr htyped
    exact hnone ⟨s, ofDocument_eq_ok_iff.mpr ⟨doc, hparse, hs⟩⟩
  · rintro hill ⟨s, hs⟩
    obtain ⟨doc, hparse, hoverlay⟩ := ofDocument_eq_ok_iff.mp hs
    exact hill doc hparse (hoverlay.wellTyped (parse?_unambiguous hparse))

/-! ## The first stage that fails -/

section

variable {ε ε' α β : Type} {x : Except ε α} {f : ε → ε'} {next : α → Except ε β}

theorem mapError_eq_ok_iff {a : α} : x.mapError f = .ok a ↔ x = .ok a := by
  cases x <;> simp [Except.mapError]

theorem mapError_eq_error_iff {e : ε'} :
    x.mapError f = .error e ↔ ∃ e', x = .error e' ∧ f e' = e := by
  cases x <;> simp [Except.mapError]

theorem bind_eq_error_iff {e : ε} :
    x.bind next = .error e ↔ x = .error e ∨ ∃ a, x = .ok a ∧ next a = .error e := by
  cases x <;> simp [Except.bind]

end

theorem load_eq (contents : Except Fault (List UInt8)) :
    load contents = ((textOf contents).mapError .io).bind fun text =>
      ((Settings.ofDocument text).mapError .parse).bind fun s =>
        (s.validate.mapError .invalid).bind fun _ => .ok s :=
  rfl

theorem load_eq_ok_iff : load contents = .ok s ↔
    ∃ text, textOf contents = .ok text ∧ Settings.ofDocument text = .ok s ∧
      s.validate = .ok () := by
  simp only [load_eq, bind_eq_ok_iff, mapError_eq_ok_iff]
  constructor
  · rintro ⟨text, htext, s', hsettings, _, hvalid, ⟨⟩⟩
    exact ⟨text, htext, hsettings, hvalid⟩
  · rintro ⟨text, htext, hsettings, hvalid⟩
    exact ⟨text, htext, s, hsettings, (), hvalid, rfl⟩

theorem load_eq_error_iff {e : LoadError} : load contents = .error e ↔
    (∃ fault, textOf contents = .error fault ∧ .io fault = e) ∨
      ∃ text, textOf contents = .ok text ∧
        ((∃ fault, Settings.ofDocument text = .error fault ∧ .parse fault = e) ∨
          ∃ s, Settings.ofDocument text = .ok s ∧
            ∃ violations, s.validate = .error violations ∧ .invalid violations = e) := by
  simp only [load_eq, bind_eq_error_iff, mapError_eq_ok_iff, mapError_eq_error_iff, reduceCtorEq,
    and_false, exists_false, or_false]

theorem validate_of_load (h : load contents = .ok s) : s.validate = .ok () := by
  obtain ⟨_, -, -, hvalid⟩ := load_eq_ok_iff.mp h
  exact hvalid

/-- **Loading is reading, overlaying and validating.** Settings are loaded exactly if the file is
readable text, the text is a document whose known sections and keys have their forms, and the
overlay of the document passes validation; then the settings are that overlay. Otherwise the first
stage that fails gives the error: a file that is no text, a document that is none or has a wrong
form somewhere, or the list of all rules that the overlay breaks. What the overlay is depends on
nothing but what the document gives for the known keys. -/
theorem load_is_overlay (contents : Except Fault (List UInt8)) :
    (∀ s, load contents = .ok s ↔ ∃ text doc, Reads contents text ∧ parse? text = some doc ∧
        WellTyped doc ∧ Overlays doc s ∧ s.validate = .ok ()) ∧
      (∀ fault, load contents = .error (.io fault) ↔ contents = .error fault ∨
        ∃ bytes, contents = .ok bytes ∧ Utf8.decode? bytes = none ∧ fault = .notUtf8) ∧
      ((∃ fault, load contents = .error (.parse fault)) ↔ ∃ text, Reads contents text ∧
        ∀ doc, parse? text = some doc → ¬ WellTyped doc) ∧
      (∀ violations, load contents = .error (.invalid violations) ↔
        ∃ text doc s, Reads contents text ∧ parse? text = some doc ∧ WellTyped doc ∧
          Overlays doc s ∧ s.validate = .error violations) ∧
      ∀ text text' doc doc' s s', parse? text = some doc → parse? text' = some doc' →
        SameFields doc doc' → Overlays doc s → Overlays doc' s' → s = s' := by
  refine ⟨fun s => ?_, fun fault => ?_, ?_, fun violations => ?_, ?_⟩
  · rw [load_eq_ok_iff]
    constructor
    · rintro ⟨text, htext, hsettings, hvalid⟩
      obtain ⟨doc, hparse, hoverlay⟩ := ofDocument_eq_ok_iff.mp hsettings
      exact ⟨text, doc, textOf_eq_ok_iff.mp htext, hparse,
        hoverlay.wellTyped (parse?_unambiguous hparse), hoverlay, hvalid⟩
    · rintro ⟨text, doc, hreads, hparse, -, hoverlay, hvalid⟩
      exact ⟨text, textOf_eq_ok_iff.mpr hreads, ofDocument_eq_ok_iff.mpr ⟨doc, hparse, hoverlay⟩,
        hvalid⟩
  · simp [load_eq_error_iff, textOf_eq_error_iff]
  · simp only [load_eq_error_iff]
    constructor
    · rintro ⟨fault, ⟨_, -, ⟨⟩⟩ | ⟨text, htext, ⟨_, hfault, -⟩ | ⟨_, -, _, -, ⟨⟩⟩⟩⟩
      exact ⟨text, textOf_eq_ok_iff.mp htext, ofDocument_fails_iff.mp ⟨_, hfault⟩⟩
    · rintro ⟨text, hreads, hill⟩
      obtain ⟨fault, hfault⟩ := ofDocument_fails_iff.mpr hill
      exact ⟨fault, Or.inr ⟨text, textOf_eq_ok_iff.mpr hreads, Or.inl ⟨fault, hfault, rfl⟩⟩⟩
  · rw [load_eq_error_iff]
    constructor
    · rintro (⟨_, -, ⟨⟩⟩ | ⟨text, htext, ⟨_, -, ⟨⟩⟩ | ⟨s, hsettings, _, hvalid, ⟨⟩⟩⟩)
      obtain ⟨doc, hparse, hoverlay⟩ := ofDocument_eq_ok_iff.mp hsettings
      exact ⟨text, doc, s, textOf_eq_ok_iff.mp htext, hparse,
        hoverlay.wellTyped (parse?_unambiguous hparse), hoverlay, hvalid⟩
    · rintro ⟨text, doc, s, hreads, hparse, -, hoverlay, hvalid⟩
      exact Or.inr ⟨text, textOf_eq_ok_iff.mpr hreads, Or.inr ⟨s,
        ofDocument_eq_ok_iff.mpr ⟨doc, hparse, hoverlay⟩, violations, hvalid, rfl⟩⟩
  · intro _ _ doc doc' s s' _ hparse' hsame hoverlay hoverlay'
    exact hoverlay.eq_of_sameFields (parse?_unambiguous hparse') hsame hoverlay'

theorem load_eq_ok_of_toOption (h : (load contents).toOption = some s) : load contents = .ok s := by
  cases hload : load contents with
  | error e => simp [hload, Except.toOption] at h
  | ok s' => simpa [hload, Except.toOption] using h

/-- The value is a date or a time. -/
def isDate : Node → Bool
  | .scalar _ .dateTime => true
  | _ => false

/-- A date passes for a section in which nothing is set. -/
theorem date_loads_as_section :
    ∃ bytes text doc node, load (.ok bytes) = .ok {} ∧ Utf8.decode? bytes = some text ∧
      parse? text = some doc ∧ doc.Has SectionName.handshake.text node ∧
      (∀ info entries, node ≠ .table info entries) ∧ (∀ span items, node ≠ .array span items) ∧
      ∀ span items, node ≠ .tables span items := by
  have hload : (load (.ok (Utf8.encode "handshake = 1979-05-27"))).toOption = some {} := by
    decide +kernel
  have hdecode : Utf8.decode? (Utf8.encode "handshake = 1979-05-27") =
      some "handshake = 1979-05-27".toList := by
    decide +kernel
  -- The document is known only as far as it matters: a date under the name of a section.
  have hparse : (parse? "handshake = 1979-05-27".toList).any
      (fun doc => doc.any fun entry => entry.1.text == "handshake" && isDate entry.2) = true := by
    decide +kernel
  obtain ⟨doc, hdoc, hany⟩ := Option.any_eq_true _ _ |>.mp hparse
  obtain ⟨⟨key, node⟩, hentry, hboth⟩ := List.any_eq_true.mp hany
  obtain ⟨hkey, hdate⟩ := Bool.and_eq_true_iff.mp hboth
  refine ⟨_, _, doc, node, load_eq_ok_of_toOption hload, hdecode, hdoc,
    ⟨key, hentry, beq_iff_eq.mp hkey⟩, ?_, ?_, ?_⟩
  all_goals
    rintro _ _ rfl
    cases hdate

end BoundedTls.Config
