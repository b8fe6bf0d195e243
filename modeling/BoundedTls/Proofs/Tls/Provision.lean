import BoundedTls.Proofs.Tls.Identity
import BoundedTls.Proofs.Tls.Roles

/-!
# What settings provide for

Settings configure the server role with a chain and a key, and the client role with authorities.
The context that is loaded from them has these roles and no others, each side as it is loaded on
its own. The server side comes first, and its error is the one that is told. Options that configure
no role have no influence.

## Architecture

- **Configured roles**: a role with what loading its material gives (`Configures`).
- **Sides**: each side of the context is that of its role, or empty.
- **Names**: a server name is looked at after everything else.
-/

namespace BoundedTls.Tls

open BoundedTls.Address BoundedTls.Config

namespace Engine

variable {engine : Engine} {files : Files} {s : TlsSettings} {e : MaterialError}

/-! ## Configured roles -/

/-- The settings configure a role, and this is what loading its material gives. -/
inductive Configures (engine : Engine) (files : Files) (s : TlsSettings) :
    Role → Except MaterialError Context → Prop where
  | server {chain key : String} {loaded : Except MaterialError Context} :
      s.certPath = some chain → s.keyPath = some key →
      engine.loadServer files chain key = loaded → Configures engine files s .server loaded
  /-- Without a name of its own a client expects the local host. -/
  | client {path : String} {loaded : Except MaterialError Context} :
      s.caPath = some path →
      engine.loadClient files path (s.serverName.getD "localhost") = loaded →
      Configures engine files s .client loaded

/-- A role is configured in one way only. -/
theorem Configures.unique {role : Role} {loaded loaded' : Except MaterialError Context}
    (h : Configures engine files s role loaded) (h' : Configures engine files s role loaded') :
    loaded = loaded' := by
  cases h with
  | server hchain hkey hload =>
    cases h' with
    | server hchain' hkey' hload' =>
      rw [← hload, ← hload', Option.some.inj (hchain.symm.trans hchain'),
        Option.some.inj (hkey.symm.trans hkey')]
  | client hpath hload =>
    cases h' with
    | client hpath' hload' => rw [← hload, ← hload', Option.some.inj (hpath.symm.trans hpath')]

/-! ## Sides -/

/-- A side of a context is loaded as its role is configured, or left empty. -/
def SideOf {σ : Type} (engine : Engine) (files : Files) (s : TlsSettings) (role : Role)
    (side : Context → Option σ) (result : Except MaterialError (Option σ)) : Prop :=
  (∃ loaded, Configures engine files s role loaded ∧ result = loaded.map side) ∨
    (∀ loaded, ¬ Configures engine files s role loaded) ∧ result = .ok none

theorem serverOfSettings_sideOf (engine : Engine) (files : Files) (s : TlsSettings) :
    SideOf engine files s .server Context.server (engine.serverOfSettings files s) := by
  unfold serverOfSettings
  split
  · exact Or.inl ⟨_, .server ‹_› ‹_› rfl, rfl⟩
  · rename_i hunset
    refine Or.inr ⟨fun loaded h => ?_, rfl⟩
    cases h with
    | server hchain hkey => exact hunset _ _ hchain hkey

theorem clientOfSettings_sideOf (engine : Engine) (files : Files) (s : TlsSettings) :
    SideOf engine files s .client Context.client (engine.clientOfSettings files s) := by
  unfold clientOfSettings
  split
  · exact Or.inl ⟨_, .client ‹_› rfl, rfl⟩
  · rename_i hunset
    refine Or.inr ⟨fun loaded h => ?_, rfl⟩
    cases h with
    | client hpath => cases hunset.symm.trans hpath

section

variable {σ : Type} {role : Role} {side : Context → Option σ}
  {result : Except MaterialError (Option σ)}

theorem SideOf.error_iff (h : SideOf engine files s role side result) :
    result = .error e ↔ Configures engine files s role (.error e) := by
  rcases h with ⟨loaded, hconf, rfl⟩ | ⟨hnone, rfl⟩
  · constructor
    · intro hfailed
      cases loaded with
      | ok context => cases hfailed
      | error fault =>
        cases hfailed
        exact hconf
    · intro hfailed
      rw [hconf.unique hfailed]
      rfl
  · constructor
    · intro hfailed
      cases hfailed
    · intro hfailed
      exact absurd hfailed (hnone _)

theorem SideOf.exists_ok_iff (h : SideOf engine files s role side result) :
    (∃ a, result = .ok a) ↔
      ∀ loaded, Configures engine files s role loaded → ∃ context, loaded = .ok context := by
  constructor
  · rintro ⟨a, hok⟩ loaded hconf
    cases loaded with
    | ok context => exact ⟨context, rfl⟩
    | error fault => cases hok.symm.trans (h.error_iff.mpr hconf)
  · intro hall
    rcases h with ⟨loaded, hconf, rfl⟩ | ⟨-, rfl⟩
    · obtain ⟨context, rfl⟩ := hall loaded hconf
      exact ⟨side context, rfl⟩
    · exact ⟨none, rfl⟩

/-- A side that was loaded is the side of what its role gave. -/
theorem SideOf.eq_of_ok {a : Option σ} {context : Context}
    (h : SideOf engine files s role side result) (hok : result = .ok a)
    (hconf : Configures engine files s role (.ok context)) : a = side context := by
  rcases h with ⟨loaded, hloaded, rfl⟩ | ⟨hnone, -⟩
  · rw [hloaded.unique hconf] at hok
    exact (Except.ok.inj hok).symm
  · exact absurd hconf (hnone _)

end

/-! ## Names -/

theorem clientOf_eq (engine : Engine) (authorities : List (List UInt8)) (name : String) :
    engine.clientOf authorities name =
      ((authorities.mapM engine.trust).mapError .refused).bind fun anchors =>
        ((engine.clientSide anchors).mapError .refused).bind fun config =>
          match ServerName.parse? name with
          | some name => .ok (config, name)
          | none => .error .badServerName :=
  rfl

/-- A client side stops at its name only if nothing else is wrong. -/
theorem clientOf_eq_badServerName_iff {authorities : List (List UInt8)} {name : String} :
    engine.clientOf authorities name = .error .badServerName ↔
      (∃ anchors config, authorities.mapM engine.trust = .ok anchors ∧
        engine.clientSide anchors = .ok config) ∧ ServerName.parse? name = none := by
  simp only [clientOf_eq, bind_eq_error_iff, mapError_eq_error_iff, mapError_eq_ok_iff,
    reduceCtorEq, and_false, exists_false, false_or]
  cases ServerName.parse? name with
  | none => simp
  | some parsed => simp

theorem loadClient_eq (engine : Engine) (files : Files) (path name : String) :
    engine.loadClient files path name =
      (openFile files path).bind fun text =>
        (engine.chainOf text path).bind fun authorities =>
          (engine.clientOf authorities name).bind fun client => .ok { client := some client } :=
  rfl

/-- All is well with a client but its name: its file was found, opened and read, holds certificates,
and all of these are trusted. -/
structure FailsForName (engine : Engine) (files : Files) (path name : String) : Prop where
  accepted : ∃ text authorities anchors config, files.open? path = some (.ok text) ∧
    HoldsChain engine text authorities ∧ authorities.mapM engine.trust = .ok anchors ∧
      engine.clientSide anchors = .ok config
  unreadable : ServerName.parse? name = none

/-- **A name that cannot be read is told of last.** -/
theorem loadClient_eq_badServerName_iff {path name : String} :
    engine.loadClient files path name = .error .badServerName ↔
      FailsForName engine files path name := by
  have hopen : openFile files path ≠ .error .badServerName := openFile_acceptsName files path
  have hchain (text : Reading) : engine.chainOf text path ≠ .error .badServerName :=
    engine.chainOf_acceptsName text path
  simp only [loadClient_eq, bind_eq_error_iff, hopen, hchain, false_or, openFile_eq_ok_iff,
    chainOf_eq_ok_iff, clientOf_eq_badServerName_iff, reduceCtorEq, and_false, exists_false,
    or_false]
  constructor
  · rintro ⟨text, htext, authorities, hholds, ⟨anchors, config, htrust, hside⟩, hname⟩
    exact ⟨⟨text, authorities, anchors, config, htext, hholds, htrust, hside⟩, hname⟩
  · rintro ⟨⟨text, authorities, anchors, config, htext, hholds, htrust, hside⟩, hname⟩
    exact ⟨text, htext, authorities, hholds, ⟨anchors, config, htrust, hside⟩, hname⟩

/-! ## All settings -/

theorem ofSettings_eq (engine : Engine) (files : Files) (s : TlsSettings) :
    engine.ofSettings files s =
      (engine.serverOfSettings files s).bind fun server =>
        (engine.clientOfSettings files s).bind fun client => .ok ⟨server, client⟩ :=
  rfl

section

variable {t : TlsSettings}

theorem ofSettings_congr
    (hserver : engine.serverOfSettings files s = engine.serverOfSettings files t)
    (hclient : engine.clientOfSettings files s = engine.clientOfSettings files t) :
    engine.ofSettings files s = engine.ofSettings files t := by
  rw [ofSettings_eq, ofSettings_eq, hserver, hclient]

/-- Settings with half an identity have the same server side, which is none. -/
theorem serverOfSettings_of_half (hs : s.certPath = none ∨ s.keyPath = none)
    (ht : t.certPath = none ∨ t.keyPath = none) :
    engine.serverOfSettings files s = engine.serverOfSettings files t := by
  have hnone {u : TlsSettings} (h : u.certPath = none ∨ u.keyPath = none) :
      engine.serverOfSettings files u = .ok none := by
    unfold serverOfSettings
    split
    · rename_i hchain hkey
      simp [hchain, hkey] at h
    · rfl
  rw [hnone hs, hnone ht]

theorem clientOfSettings_of_none (hs : s.caPath = none) (ht : t.caPath = none) :
    engine.clientOfSettings files s = engine.clientOfSettings files t := by
  simp only [clientOfSettings, hs, ht]

end

/-- A role is configured if the files that it needs are named. -/
theorem exists_configures_iff {role : Role} : (∃ loaded, Configures engine files s role loaded) ↔
    match role with
    | .server => s.certPath.isSome ∧ s.keyPath.isSome
    | .client => s.caPath.isSome := by
  cases role with
  | server =>
    simp only [Option.isSome_iff_exists]
    constructor
    · rintro ⟨_, h⟩
      cases h with
      | server hchain hkey => exact ⟨⟨_, hchain⟩, ⟨_, hkey⟩⟩
    · rintro ⟨⟨chain, hchain⟩, ⟨key, hkey⟩⟩
      exact ⟨_, .server hchain hkey rfl⟩
  | client =>
    simp only [Option.isSome_iff_exists]
    constructor
    · rintro ⟨_, h⟩
      cases h with
      | client hpath => exact ⟨_, hpath⟩
    · rintro ⟨path, hpath⟩
      exact ⟨_, .client hpath rfl⟩

/-- What loading the settings comes to. -/
structure Provides (engine : Engine) (files : Files) (s : TlsSettings) : Prop where
  succeeds : (∃ context, engine.ofSettings files s = .ok context) ↔
    ∀ role loaded, Configures engine files s role loaded → ∃ context, loaded = .ok context
  roles : ∀ context, engine.ofSettings files s = .ok context → ∀ role,
    context.supports role = true ↔ ∃ loaded, Configures engine files s role loaded
  server : ∀ context, engine.ofSettings files s = .ok context → ∀ loaded,
    Configures engine files s .server (.ok loaded) → context.server = loaded.server
  client : ∀ context, engine.ofSettings files s = .ok context → ∀ loaded,
    Configures engine files s .client (.ok loaded) → context.client = loaded.client
  /-- The error of the server role counts, whatever there is for a client. -/
  fails : ∀ e, engine.ofSettings files s = .error e ↔
    Configures engine files s .server (.error e) ∨
      (∀ loaded, Configures engine files s .server loaded → ∃ context, loaded = .ok context) ∧
        Configures engine files s .client (.error e)
  /-- Half an identity is as good as none. -/
  loneChain : s.keyPath = none → ∀ path,
    engine.ofSettings files { s with certPath := path } = engine.ofSettings files s
  loneKey : s.certPath = none → ∀ path,
    engine.ofSettings files { s with keyPath := path } = engine.ofSettings files s
  /-- Nobody is expected without authorities. -/
  loneName : s.caPath = none → ∀ name,
    engine.ofSettings files { s with serverName := name } = engine.ofSettings files s

theorem provides (engine : Engine) (files : Files) (s : TlsSettings) :
    Provides engine files s where
  succeeds := by
    have hboth : (∃ context, engine.ofSettings files s = .ok context) ↔
        (∃ server, engine.serverOfSettings files s = .ok server) ∧
          ∃ client, engine.clientOfSettings files s = .ok client := by
      simp only [ofSettings_eq, bind_eq_ok_iff]
      constructor
      · rintro ⟨_, server, hserver, client, hclient, -⟩
        exact ⟨⟨server, hserver⟩, ⟨client, hclient⟩⟩
      · rintro ⟨⟨server, hserver⟩, ⟨client, hclient⟩⟩
        exact ⟨_, server, hserver, client, hclient, rfl⟩
    rw [hboth, (serverOfSettings_sideOf engine files s).exists_ok_iff,
      (clientOfSettings_sideOf engine files s).exists_ok_iff]
    constructor
    · rintro ⟨hserver, hclient⟩ role loaded hconf
      cases role with
      | server => exact hserver loaded hconf
      | client => exact hclient loaded hconf
    · exact fun h => ⟨h .server, h .client⟩
  roles := by
    intro context hok role
    obtain ⟨hserver, hclient⟩ := ofSettings_supports hok
    rw [exists_configures_iff]
    cases role with
    | server => rw [hserver, Bool.and_eq_true]
    | client => rw [hclient]
  server := by
    intro context hok loaded hconf
    simp only [ofSettings_eq, bind_eq_ok_iff] at hok
    obtain ⟨server, hserver, client, -, hsides⟩ := hok
    rw [← Except.ok.inj hsides]
    exact (serverOfSettings_sideOf engine files s).eq_of_ok hserver hconf
  client := by
    intro context hok loaded hconf
    simp only [ofSettings_eq, bind_eq_ok_iff] at hok
    obtain ⟨server, -, client, hclient, hsides⟩ := hok
    rw [← Except.ok.inj hsides]
    exact (clientOfSettings_sideOf engine files s).eq_of_ok hclient hconf
  fails := by
    intro e
    simp only [ofSettings_eq, bind_eq_error_iff, reduceCtorEq, and_false, exists_false, or_false]
    rw [(serverOfSettings_sideOf engine files s).error_iff,
      (clientOfSettings_sideOf engine files s).error_iff, exists_and_right,
      (serverOfSettings_sideOf engine files s).exists_ok_iff]
  loneChain := fun hkey _ =>
    ofSettings_congr (serverOfSettings_of_half (.inr hkey) (.inr hkey)) rfl
  loneKey := fun hcert _ =>
    ofSettings_congr (serverOfSettings_of_half (.inl hcert) (.inl hcert)) rfl
  loneName := fun hca _ => ofSettings_congr rfl (clientOfSettings_of_none hca hca)

/-- **Settings provide for the roles that they configure**, and for nothing else, whatever the
engine reads and accepts. Loading them succeeds if every configured role loads by itself, and gives
these roles, each side as it was loaded. Otherwise the error is that of the server role, or that of
the client role if nothing is wrong with the server; a server name that cannot be read is told of
after everything else. Half an identity, and a name without authorities, have no influence. -/
theorem configured_roles_are_provided (engine : Engine) (files : Files) (s : TlsSettings) :
    Provides engine files s ∧
      ∀ path name, engine.loadClient files path name = .error .badServerName ↔
        FailsForName engine files path name :=
  ⟨provides engine files s, fun _ _ => loadClient_eq_badServerName_iff⟩

end Engine

end BoundedTls.Tls
