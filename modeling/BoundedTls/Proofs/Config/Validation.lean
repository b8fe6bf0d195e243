import BoundedTls.Config.Load

/-!
# What validated settings keep

Validation collects one violation for every rule that is broken. Settings pass when none is, and
then every rule holds.
-/

namespace BoundedTls.Config

open BoundedTls.Text BoundedTls.Address

theorem unlessKept_eq_nil {kept : Bool} {v : Violation} : unlessKept kept v = [] ↔ kept = true := by
  cases kept <;> simp [unlessKept]

theorem mem_unlessKept_iff {kept : Bool} {v w : Violation} :
    w ∈ unlessKept kept v ↔ kept = false ∧ w = v := by
  cases kept <;> simp [unlessKept]

namespace Settings

variable {s : Settings}

/-- The six rules. -/
structure Valid (s : Settings) : Prop where
  bindAddress : s.hasBindAddress = true
  maxConnections : s.listener.maxConnections ≠ 0
  timeoutMs : s.handshake.timeoutMs ≠ 0
  identity : s.hasWholeIdentity = true
  serverName : s.badServerName? = none
  logLevel : s.hasLogLevel = true

theorem violations_eq_nil_iff : s.violations = [] ↔ s.Valid := by
  simp only [violations, List.append_eq_nil_iff, unlessKept_eq_nil, Option.toList_eq_nil_iff,
    Option.map_eq_none_iff, bne_iff_ne]
  constructor
  · rintro ⟨⟨⟨⟨⟨haddress, hmax⟩, htimeout⟩, hidentity⟩, hname⟩, hlevel⟩
    exact ⟨haddress, hmax, htimeout, hidentity, hname, hlevel⟩
  · rintro ⟨haddress, hmax, htimeout, hidentity, hname, hlevel⟩
    exact ⟨⟨⟨⟨⟨haddress, hmax⟩, htimeout⟩, hidentity⟩, hname⟩, hlevel⟩

theorem validate_eq_ok_iff : s.validate = .ok () ↔ s.violations = [] := by
  unfold validate
  split
  · rename_i hempty
    simpa using hempty
  · rename_i hviolations
    simpa using hviolations

end Settings

end BoundedTls.Config
