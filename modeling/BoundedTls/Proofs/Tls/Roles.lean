import BoundedTls.Proofs.Tls.Identity

/-!
# The roles that settings provide for

A context is loaded from settings one role after the other. The roles of the context are those
that the settings provide material for, and a server name that can be read is never what loading
stops at.
-/

namespace BoundedTls.Tls

open BoundedTls.Address BoundedTls.Config

variable {files : Files} {α : Type}

/-! ## Faults of material -/

section

variable {β : Type} {x : Except MaterialError α} {next : α → Except MaterialError β}

/-- The result is anything but a server name that cannot be read. -/
def AcceptsName (x : Except MaterialError α) : Prop :=
  x ≠ .error .badServerName

theorem AcceptsName.bind (h : AcceptsName x) (hnext : ∀ a, x = .ok a → AcceptsName (next a)) :
    AcceptsName (x >>= next) := by
  intro hbad
  rcases bind_eq_error_iff.mp hbad with hfirst | ⟨a, hok, hlater⟩
  · exact h hfirst
  · exact hnext a hok hlater

theorem AcceptsName.map (h : AcceptsName x) (f : α → β) : AcceptsName (x.map f) := by
  cases x with
  | ok a => simp [AcceptsName, Except.map]
  | error e => simpa [AcceptsName, Except.map] using h

end

namespace Engine

variable (engine : Engine)

theorem chainOf_acceptsName (text : Reading) (source : String) :
    AcceptsName (engine.chainOf text source) := by
  intro hbad
  cases chainOf_eq_error_iff.mp hbad

theorem keyOf_acceptsName (text : Reading) (source : String) :
    AcceptsName (engine.keyOf text source) := by
  intro hbad
  cases keyOf_eq_error_iff.mp hbad

theorem openFile_acceptsName (files : Files) (path : String) :
    AcceptsName (openFile files path) := by
  intro hbad
  rcases openFile_eq_error_iff.mp hbad with ⟨-, hmissing⟩ | ⟨fault, -, hlocked⟩
  · cases hmissing
  · cases hlocked

/-- What the engine objects to is never the name. -/
theorem refused_acceptsName (x : Except Failure α) : AcceptsName (x.mapError .refused) := by
  intro hbad
  obtain ⟨failure, -, hrefused⟩ := mapError_eq_error_iff.mp hbad
  cases hrefused

/-- A name that can be read is accepted, whatever the authorities are. -/
theorem clientOf_acceptsName (authorities : List (List UInt8)) {name : String}
    (hname : (ServerName.parse? name).isSome = true) :
    AcceptsName (engine.clientOf authorities name) := by
  unfold clientOf
  apply AcceptsName.bind (refused_acceptsName _)
  intro anchors _
  apply AcceptsName.bind (refused_acceptsName _)
  intro config _
  obtain ⟨parsed, hparsed⟩ := Option.isSome_iff_exists.mp hname
  simp [AcceptsName, hparsed, pure, Except.pure]

theorem loadServer_acceptsName (files : Files) (chainPath keyPath : String) :
    AcceptsName (engine.loadServer files chainPath keyPath) := by
  unfold loadServer
  apply AcceptsName.bind (openFile_acceptsName files chainPath)
  intro chainText _
  apply AcceptsName.bind (engine.chainOf_acceptsName chainText chainPath)
  intro chain _
  apply AcceptsName.bind (openFile_acceptsName files keyPath)
  intro keyText _
  apply AcceptsName.bind (engine.keyOf_acceptsName keyText keyPath)
  intro key _
  apply AcceptsName.bind (refused_acceptsName _)
  intro server _
  simp [AcceptsName, pure, Except.pure]

theorem loadClient_acceptsName (files : Files) (path : String) {name : String}
    (hname : (ServerName.parse? name).isSome = true) :
    AcceptsName (engine.loadClient files path name) := by
  unfold loadClient
  apply AcceptsName.bind (openFile_acceptsName files path)
  intro text _
  apply AcceptsName.bind (engine.chainOf_acceptsName text path)
  intro authorities _
  apply AcceptsName.bind (engine.clientOf_acceptsName authorities hname)
  intro client _
  simp [AcceptsName, pure, Except.pure]

variable {engine}

/-! ## Roles -/

/-- A context that was loaded for a server has a server side. -/
theorem server_of_loadServer {chainPath keyPath : String} {context : Context}
    (h : engine.loadServer files chainPath keyPath = .ok context) :
    context.server.isSome = true := by
  obtain ⟨server, rfl⟩ := loadServer_sides h
  rfl

theorem client_of_loadClient {path name : String} {context : Context}
    (h : engine.loadClient files path name = .ok context) : context.client.isSome = true := by
  obtain ⟨_, -, h⟩ := bind_eq_ok_iff.mp h
  obtain ⟨_, -, h⟩ := bind_eq_ok_iff.mp h
  obtain ⟨client, -, h⟩ := bind_eq_ok_iff.mp h
  cases h
  rfl

/-- A server side is loaded where chain and key are both set. -/
theorem serverOfSettings_isSome {s : TlsSettings} {server : Option ServerConfig}
    (h : engine.serverOfSettings files s = .ok server) :
    server.isSome = (s.certPath.isSome && s.keyPath.isSome) := by
  unfold serverOfSettings at h
  split at h
  · rename_i chain key hchain hkey
    rw [hchain, hkey]
    cases hload : engine.loadServer files chain key with
    | error e => simp [hload, Except.map] at h
    | ok context =>
      have hside : context.server = server := by simpa [hload, Except.map] using h
      rw [← hside, server_of_loadServer hload]
      rfl
  · rename_i hunset
    cases h
    -- One of the two paths is missing, or both are.
    cases hcert : s.certPath with
    | none => rfl
    | some chain =>
      cases hkey : s.keyPath with
      | none => rfl
      | some key => exact absurd hkey (hunset chain key hcert)

/-- A client side is loaded where authorities are set. -/
theorem clientOfSettings_isSome {s : TlsSettings} {client : Option (ClientConfig × ServerName)}
    (h : engine.clientOfSettings files s = .ok client) : client.isSome = s.caPath.isSome := by
  unfold clientOfSettings at h
  cases hca : s.caPath with
  | none =>
    rw [hca] at h
    cases h
    rfl
  | some path =>
    simp only [hca] at h
    cases hload : engine.loadClient files path (s.serverName.getD defaultServerName) with
    | error e => simp [hload, Except.map] at h
    | ok context =>
      have hside : context.client = client := by simpa [hload, Except.map] using h
      rw [← hside, client_of_loadClient hload]
      rfl

/-- **A context has the roles that its settings provide for.** -/
theorem ofSettings_supports {s : TlsSettings} {context : Context}
    (h : engine.ofSettings files s = .ok context) :
    context.supports .server = (s.certPath.isSome && s.keyPath.isSome) ∧
      context.supports .client = s.caPath.isSome := by
  obtain ⟨server, hserver, h⟩ := bind_eq_ok_iff.mp h
  obtain ⟨client, hclient, h⟩ := bind_eq_ok_iff.mp h
  cases h
  exact ⟨serverOfSettings_isSome hserver, clientOfSettings_isSome hclient⟩

/-- The name that is expected if none is set can be read. -/
theorem defaultServerName_isSome : (ServerName.parse? defaultServerName).isSome = true := by
  decide +kernel

/-- **Loading does not stop at a name that can be read**, nor at one that is not set. -/
theorem ofSettings_acceptsName (engine : Engine) (files : Files) {s : TlsSettings}
    (hname : ∀ name, s.serverName = some name → (ServerName.parse? name).isSome = true) :
    AcceptsName (engine.ofSettings files s) := by
  have hexpected : (ServerName.parse? (s.serverName.getD defaultServerName)).isSome = true := by
    cases hset : s.serverName with
    | none => exact defaultServerName_isSome
    | some name => exact hname name hset
  apply AcceptsName.bind
  · unfold serverOfSettings
    split
    · exact (engine.loadServer_acceptsName files _ _).map _
    · simp [AcceptsName]
  · intro server _
    apply AcceptsName.bind
    · unfold clientOfSettings
      split
      · exact (engine.loadClient_acceptsName files _ hexpected).map _
      · simp [AcceptsName]
    · intro client _
      simp [AcceptsName, pure, Except.pure]

end Engine

end BoundedTls.Tls
