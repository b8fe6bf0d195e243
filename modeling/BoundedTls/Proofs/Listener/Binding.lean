import BoundedTls.Listener
import BoundedTls.Proofs.Config.Loading

/-!
# Binding to validated settings

Settings that pass validation name a socket address and ask for at least one slot. So a listener
that is bound to them starts with a free slot, and a refusal is the host's. What validation does
not bound from above is the number of slots: where the host binds the address, and more slots are
asked for than there can be, the program goes down.

## Architecture

- **Any settings**: what binding comes to, one rule for each way it ends (`Listener.Binds`).
- **Valid settings**: which of these ends are left (`BindsTo`).
-/

namespace BoundedTls

open BoundedTls.Address BoundedTls.Time

/-! ## Any settings -/

namespace Listener

/-- What binding comes to, by the address that is named, the host's answer and the slots. -/
inductive Binds (id : Nat) (host : SocketAddress → Except Fault SocketAddress)
    (settings : Config.ListenerSettings) (e : Endpoint) : Bound → Prop where
  | unreadable : SocketAddress.parse? settings.bindAddress = none →
      Binds id host settings e (.failed (.bind .badAddress))
  | refused {wanted : SocketAddress} {fault : Fault} :
      SocketAddress.parse? settings.bindAddress = some wanted → host wanted = .error fault →
      Binds id host settings e (.failed (.bind fault))
  | crashed {wanted address : SocketAddress} :
      SocketAddress.parse? settings.bindAddress = some wanted → host wanted = .ok address →
      maxPermits < settings.maxConnections.toNat →
      Binds id host settings e
        (.crashed [.log (.bound address settings.maxConnections e.timeout.millis64)])
  | listening {wanted address : SocketAddress} :
      SocketAddress.parse? settings.bindAddress = some wanted → host wanted = .ok address →
      settings.maxConnections.toNat ≤ maxPermits →
      Binds id host settings e
        (.listening
          ⟨id, address, e, settings.maxConnections, settings.maxConnections.toNat, []⟩
          [.log (.bound address settings.maxConnections e.timeout.millis64)])

theorem bind_binds (id : Nat) (host : SocketAddress → Except Fault SocketAddress)
    (settings : Config.ListenerSettings) (e : Endpoint) :
    Binds id host settings e (bind id host settings e) := by
  unfold bind
  cases hwanted : SocketAddress.parse? settings.bindAddress with
  | none => exact .unreadable hwanted
  | some wanted =>
    cases hanswer : host wanted with
    | error fault =>
      simp only [hanswer]
      exact .refused hwanted hanswer
    | ok address =>
      simp only [hanswer]
      split
      · exact .crashed hwanted hanswer ‹_›
      · exact .listening hwanted hanswer (Nat.le_of_not_lt ‹_›)

end Listener

/-! ## Valid settings -/

/-- The host binds this address for the settings. -/
def Config.ListenerSettings.Gets (settings : ListenerSettings)
    (host : SocketAddress → Except Fault SocketAddress) (address : SocketAddress) : Prop :=
  ∃ wanted, SocketAddress.parse? settings.bindAddress = some wanted ∧ host wanted = .ok address

/-- What binding to valid settings comes to. -/
inductive BindsTo (settings : Config.ListenerSettings)
    (host : SocketAddress → Except Fault SocketAddress) : Bound → Prop where
  /-- All slots are free, and there is at least one. -/
  | listening {l : Listener} {effects : List Effect} :
      settings.Gets host l.address → l.maxConnections = settings.maxConnections →
      l.available = settings.maxConnections.toNat → 0 < l.available → l.available ≤ maxPermits →
      BindsTo settings host (.listening l effects)
  /-- The host refuses the address; the address itself is fine. -/
  | failed {wanted : SocketAddress} {fault : Fault} :
      SocketAddress.parse? settings.bindAddress = some wanted →
      host wanted = .error fault →
      BindsTo settings host (.failed (.bind fault))
  | crashed {address : SocketAddress} {effects : List Effect} :
      settings.Gets host address → maxPermits < settings.maxConnections.toNat →
      BindsTo settings host (.crashed effects)

section

variable {s : Config.Settings}

/-- Valid settings name an address and ask for a slot. -/
theorem Config.Settings.listener_of_valid (h : s.validate = .ok ()) :
    (∃ wanted, SocketAddress.parse? s.listener.bindAddress = some wanted) ∧
      0 < s.listener.maxConnections.toNat := by
  have hvalid := violations_eq_nil_iff.mp (validate_eq_ok_iff.mp h)
  have hpositive : 0 < s.listener.maxConnections := UInt64.pos_iff_ne_zero.mpr hvalid.maxConnections
  exact ⟨Option.isSome_iff_exists.mp hvalid.bindAddress, hpositive⟩

/-- **Valid settings bind, fail or crash.** Binding a listener to settings that pass validation
ends with a listener whose slots are all free, with a refusal of the host, or with a crash; and it
crashes exactly if the host binds the address and more slots are asked for than there can be. -/
theorem bind_of_valid_settings (h : s.validate = .ok ()) (id : Nat)
    (host : SocketAddress → Except Fault SocketAddress) (endpoint : Endpoint) :
    BindsTo s.listener host (Listener.bind id host s.listener endpoint) ∧
      ((∃ effects, Listener.bind id host s.listener endpoint = .crashed effects) ↔
        maxPermits < s.listener.maxConnections.toNat ∧
          ∃ address, s.listener.Gets host address) := by
  obtain ⟨⟨wanted, hwanted⟩, hpositive⟩ := Config.Settings.listener_of_valid h
  have hbinds := Listener.bind_binds id host s.listener endpoint
  generalize Listener.bind id host s.listener endpoint = bound at hbinds ⊢
  cases hbinds with
  | unreadable hnone => cases hwanted.symm.trans hnone
  | refused hwanted hanswer =>
    refine ⟨.failed hwanted hanswer, ?_⟩
    -- No other address can be had, for the settings name only one.
    have hnone : ¬ ∃ address, s.listener.Gets host address := by
      rintro ⟨address, other, hother, hgets⟩
      cases hother.symm.trans hwanted
      cases hgets.symm.trans hanswer
    simp [hnone]
  | @crashed wanted address hwanted hanswer hmany =>
    have hgets : s.listener.Gets host address := ⟨wanted, hwanted, hanswer⟩
    exact ⟨.crashed hgets hmany, by simpa [hmany] using ⟨address, hgets⟩⟩
  | @listening wanted address hwanted hanswer hroom =>
    have hgets : s.listener.Gets host address := ⟨wanted, hwanted, hanswer⟩
    exact ⟨.listening hgets rfl rfl hpositive hroom, by simp [Nat.not_lt.mpr hroom]⟩

/-- One slot more than there can be is valid, and crashes where the host binds the address. -/
theorem bind_of_valid_settings_beyond_limit :
    let s : Config.Settings :=
      { listener := { bindAddress := "127.0.0.1:0", maxConnections := 2305843009213693952 } }
    let host : SocketAddress → Except Fault SocketAddress := fun wanted =>
      if wanted.port = 0 then .ok { wanted with port := 40000 } else .ok wanted
    s.validate = .ok () ∧ ∃ effects, Listener.bind 0 host s.listener {} = .crashed effects := by
  intro s host
  have hvalid : s.validate = .ok () := Config.Settings.validate_eq_ok_iff.mpr (by decide +kernel)
  have hgets : s.listener.Gets host ⟨localhost, 40000, 0⟩ :=
    ⟨⟨localhost, 0, 0⟩, by decide +kernel, rfl⟩
  have hmany : maxPermits < s.listener.maxConnections.toNat := by decide
  exact ⟨hvalid, (bind_of_valid_settings hvalid 0 host {}).2.mpr ⟨hmany, _, hgets⟩⟩

/-- A file can ask for as much, at the address that is bound if it names none. -/
theorem loaded_settings_crash :
    ∃ contents s, Config.load contents = .ok s ∧ s.validate = .ok () ∧
      ∃ effects, Listener.bind 0 .ok s.listener {} = .crashed effects := by
  have hload : (Config.load (.ok (Text.Utf8.encode
      "listener.max_connections = 2305843009213693952"))).toOption =
        some { listener := { maxConnections := 2305843009213693952 } } := by
    decide +kernel
  have hok := Config.load_eq_ok_of_toOption hload
  exact ⟨_, _, hok, Config.validate_of_load hok, _, rfl⟩

end

end BoundedTls
