import BoundedTls.Log.Directive
import BoundedTls.Proofs.Connection.Story
import BoundedTls.Proofs.Listener.Binding
import BoundedTls.Proofs.Tls.Roles

/-!
# Settings are understood

Validation reads an address, a name and a level only to see whether they can be read. Listeners,
TLS contexts, the log and the deadline read the same settings again, each in its own way. What
validation lets pass is read by all of them, and with the same meaning.

## Architecture

- **Milliseconds**: a deadline in milliseconds is kept exactly, as a span, as an instant and as a
  number in the log.
- **Levels**: the default filter names a level exactly if validation knows it.
- **Readers**: what each reader makes of valid settings (`Settings.Understood`).
-/

namespace BoundedTls

open BoundedTls.Address BoundedTls.Time

/-! ## Milliseconds -/

namespace Time.Duration

theorem total_ofMillis (ms : UInt64) : (ofMillis ms).total = ms.toNat * nanosPerMilli := by
  have hsecond : nanosPerSecond = 1000 * nanosPerMilli := by decide
  calc (ofMillis ms).total
    _ = ms.toNat / 1000 * nanosPerSecond + ms.toNat % 1000 * nanosPerMilli := by
      rw [← show (1000 : UInt64).toNat = 1000 from rfl, ← UInt64.toNat_div]
      rfl
    _ = (ms.toNat / 1000 * 1000 + ms.toNat % 1000) * nanosPerMilli := by
      rw [hsecond, ← Nat.mul_assoc, Nat.add_mul]
    _ = ms.toNat * nanosPerMilli := by rw [Nat.div_add_mod']

/-- The milliseconds of a span fit into 64 bits if the span was made of as many. -/
@[simp] theorem millis64_ofMillis (ms : UInt64) : (ofMillis ms).millis64 = ms := by
  have hwhole : (ofMillis ms).wholeMillis = ms.toNat := by
    rw [wholeMillis, total_ofMillis]
    exact Nat.mul_div_cancel _ (by decide)
  rw [millis64, hwhole, UInt64.ofNat_toNat]

theorem total_ofMillis_le (ms : UInt64) : (ofMillis ms).total ≤ UInt64.size * nanosPerMilli := by
  rw [total_ofMillis]
  exact Nat.mul_le_mul_right _ (Nat.le_of_lt ms.toNat_lt)

section

variable {now : Instant} (hclock : now + UInt64.size * nanosPerMilli ≤ clockEnd) (ms : UInt64)

include hclock

theorem later?_ofMillis : later? now (ofMillis ms) = some (now + ms.toNat * nanosPerMilli) := by
  have hfits : now + (ofMillis ms).total ≤ clockEnd :=
    Nat.le_trans (Nat.add_le_add_left (total_ofMillis_le ms) now) hclock
  rw [later?, if_pos hfits, total_ofMillis]

/-- The stand-in for a timeout is not needed on a clock that holds every number of milliseconds. -/
theorem deadlineAfter_ofMillis :
    deadlineAfter now (ofMillis ms) = now + ms.toNat * nanosPerMilli := by
  rw [deadlineAfter, later?_ofMillis hclock, Option.getD_some]

end

end Time.Duration

/-! ## Levels -/

namespace Log

/-- The default filter for a level. -/
def Level.directive (l : Level) : String :=
  "warn," ++ target ++ "=" ++ l.name

theorem Level.name_injective {a b : Level} (h : a.name = b.name) : a = b := by
  revert h
  cases a <;> cases b <;> decide

/-- A text names a level if it is the name of the level in small letters. -/
theorem Level.ofName?_eq_some_iff {s : String} {l : Level} :
    Level.ofName? s = some l ↔ l.name.toList = Text.asciiLower s.toList := by
  constructor
  · intro h
    simpa using List.find?_some h
  · intro h
    cases hfound : Level.ofName? s with
    | some other =>
      have hother : other.name.toList = Text.asciiLower s.toList := by
        simpa using List.find?_some hfound
      exact congrArg some (name_injective (String.toList_inj.mp (hother.trans h.symm)))
    | none =>
      have hall : l ∈ Level.all := by cases l <;> decide
      have hnot := List.find?_eq_none.mp hfound l hall
      simp [h] at hnot

/-- The filter and the validation take a text for the same level. -/
theorem defaultDirective_eq_iff {s : String} {l : Level} :
    defaultDirective s = l.directive ↔ Level.ofName? s = some l := by
  rw [Level.ofName?_eq_some_iff, defaultDirective, Level.directive]
  constructor
  · intro h
    -- Both texts begin alike.
    have hlists := congrArg String.toList h
    simp only [String.toList_append, String.toList_ofList, List.append_cancel_left_eq] at hlists
    exact hlists.symm
  · intro h
    rw [← h, String.ofList_toList]

end Log

namespace Config

variable {s : Settings}

/-- A level is objected to if it is the level of the settings and none of the five. -/
theorem Settings.badLogLevel_mem_iff (s : Settings) (text : String) :
    .badLogLevel text ∈ s.violations ↔ text = s.observability.level ∧ s.hasLogLevel = false := by
  simp [violations, mem_unlessKept_iff, and_comm]

/-- **The default filter and the validation agree on every level.** -/
theorem Settings.directive_iff (s : Settings) :
    (∃ level : Log.Level, Log.defaultDirective s.observability.level = level.directive) ↔
      ∀ text, .badLogLevel text ∉ s.violations := by
  have hlevel : s.hasLogLevel = true ↔
      ∃ level : Log.Level, Log.defaultDirective s.observability.level = level.directive := by
    simp only [Log.defaultDirective_eq_iff, hasLogLevel, Option.isSome_iff_exists]
  rw [← hlevel]
  simp only [badLogLevel_mem_iff]
  constructor
  · intro hknown text hbad
    exact Bool.false_ne_true (hbad.2.symm.trans hknown)
  · intro hnone
    by_contra hunknown
    exact hnone _ ⟨rfl, Bool.eq_false_iff.mpr hunknown⟩

end Config

/-! ## Deadlines -/

/-- The endpoint holds to a deadline of this many milliseconds, and names it. -/
structure Endpoint.Keeps (e : Endpoint) (ms : UInt64) : Prop where
  exactly : e.timeout.total = ms.toNat * nanosPerMilli
  /-- A timer is set to the instant that was asked for. -/
  armed : ∀ (now : Instant) (t : Timer), now + UInt64.size * nanosPerMilli ≤ clockEnd →
    later? now e.timeout = some (now + ms.toNat * nanosPerMilli) ∧
      t.expiresAfter now e.timeout = ⟨now + ms.toNat * nanosPerMilli, .armed⟩
  /-- A listener tells of it as it is bound, even if it has too many slots. -/
  bound : ∀ (id : Nat) (host : SocketAddress → Except Fault SocketAddress)
    (settings : Config.ListenerSettings) (effects : List Effect),
    ((∃ l, Listener.bind id host settings e = .listening l effects) ∨
      Listener.bind id host settings e = .crashed effects) →
    ∃ address, effects = [.log (.bound address settings.maxConnections ms)]
  /-- A connection that was stamped, and has taken a stream, tells of it as its handshake begins,
  and is held to it. -/
  started : ∀ (provider : TlsProvider) (handle : Handle) (now : Instant) (runtime : Runtime)
    (stream : StreamId) (role : Role),
    let stamped := ((e.setProvider provider).connection handle).1
    let bound := stamped.initTransport now runtime stream role
    bound.result = .ok () → ∀ start : Instant,
      (bound.connection.start start).effects.filterMap Effect.told? =
          [.handshakeStarted handle role ms] ∧
        (start + UInt64.size * nanosPerMilli ≤ clockEnd →
          (bound.connection.start start).connection.timer =
            some ⟨start + ms.toNat * nanosPerMilli, .armed⟩)

/-- What binding tells of, whether or not there is room for the slots. -/
theorem Listener.bind_effects {id : Nat} {host : SocketAddress → Except Fault SocketAddress}
    {settings : Config.ListenerSettings} {e : Endpoint} {effects : List Effect}
    (h : (∃ l, Listener.bind id host settings e = .listening l effects) ∨
      Listener.bind id host settings e = .crashed effects) :
    ∃ address, effects = [.log (.bound address settings.maxConnections e.timeout.millis64)] := by
  have hbinds := Listener.bind_binds id host settings e
  -- The event is written before the slots are counted.
  rcases h with ⟨l, hlistening⟩ | hcrashed
  · rw [hlistening] at hbinds
    cases hbinds with
    | listening => exact ⟨_, rfl⟩
  · rw [hcrashed] at hbinds
    cases hbinds with
    | crashed => exact ⟨_, rfl⟩

/-- Where the address can be read, a listener fails to bind for what the host says of it. -/
theorem Listener.bind_failed {id : Nat} {host : SocketAddress → Except Fault SocketAddress}
    {settings : Config.ListenerSettings} {e : Endpoint} {wanted : SocketAddress}
    {error : ListenerError} (hwanted : SocketAddress.parse? settings.bindAddress = some wanted)
    (h : Listener.bind id host settings e = .failed error) :
    ∃ fault, host wanted = .error fault ∧ error = .bind fault := by
  have hbinds := h ▸ Listener.bind_binds id host settings e
  cases hbinds with
  | unreadable hnone => cases hwanted.symm.trans hnone
  | refused hother hanswer =>
    cases hother.symm.trans hwanted
    exact ⟨_, hanswer, rfl⟩

theorem Endpoint.keeps_ofMillis {e : Endpoint} {ms : UInt64} (h : e.timeout = .ofMillis ms) :
    e.Keeps ms where
  exactly := by rw [h, Duration.total_ofMillis]
  armed := by
    intro now t hclock
    rw [h, Timer.expiresAfter, Duration.deadlineAfter_ofMillis hclock]
    exact ⟨Duration.later?_ofMillis hclock ms, rfl⟩
  bound := by
    intro id host settings effects hbound
    obtain ⟨address, heffects⟩ := Listener.bind_effects hbound
    rw [h, Duration.millis64_ofMillis] at heffects
    exact ⟨address, heffects⟩
  started := by
    intro provider handle now runtime stream role stamped bound hok start
    obtain ⟨hready, hrole, hhandle, htimeout, -⟩ := Connection.initTransport_ok hok
    have hstamped : stamped.Shaped :=
      Setting.put_shaped (.stamp (e.setProvider provider)) _ (Connection.new_shaped handle)
    have hshaped : bound.connection.Shaped := (Connection.initTransport_turn ..).shaped hstamped
    have hkept : bound.connection.timeout = .ofMillis ms := htimeout.trans h
    refine ⟨?_, ?_⟩
    · obtain ⟨other, hother, htold⟩ := Connection.start_told hshaped hready start
      obtain rfl : role = other := Option.some.inj (hrole.symm.trans hother)
      rw [htold, hkept, Duration.millis64_ofMillis]
      exact congrArg (fun h => [Log.Event.handshakeStarted h role ms]) hhandle
    · intro hclock
      obtain ⟨_, _, _, _, _, _, _, hracing⟩ := Connection.start_of_ready hshaped hready start
      rw [hracing]
      simp only [Connection.racing, hkept, Duration.deadlineAfter_ofMillis hclock]

/-! ## Readers -/

namespace Config

/-- The context has the roles that the settings name material for. -/
structure TlsSettings.ProvidesFor (s : TlsSettings) (context : Tls.Context) : Prop where
  server : context.supports .server = true ↔ s.certPath.isSome = true
  /-- No chain is ignored for want of its key, and no key for want of its chain. -/
  key : s.certPath.isSome = true ↔ s.keyPath.isSome = true
  client : context.supports .client = true ↔ s.caPath.isSome = true

/-- Everybody who reads the settings can read them, and takes them as they are meant. -/
structure Settings.Understood (s : Settings) : Prop where
  address : ∃ wanted, SocketAddress.parse? s.listener.bindAddress = some wanted
  /-- A listener never fails for the text of its address, only for what the host says of it. -/
  binds : ∀ (id : Nat) (host : SocketAddress → Except Fault SocketAddress) (e : Endpoint)
    (error : ListenerError), Listener.bind id host s.listener e = .failed error →
    ∃ wanted fault, SocketAddress.parse? s.listener.bindAddress = some wanted ∧
      host wanted = .error fault ∧ error = .bind fault
  /-- Whatever the files hold, and whatever the engine accepts. -/
  serverName : ∀ (engine : Tls.Engine) files,
    engine.ofSettings files s.tls ≠ .error .badServerName
  roles : ∀ (engine : Tls.Engine) files context, engine.ofSettings files s.tls = .ok context →
    s.tls.ProvidesFor context
  level : ∃ level : Log.Level, Log.defaultDirective s.observability.level = level.directive
  timeout : s.handshake.timeoutMs ≠ 0 ∧ (Endpoint.ofSettings s.handshake).timeout.total ≠ 0
  deadline : (Endpoint.ofSettings s.handshake).Keeps s.handshake.timeoutMs

variable {s : Settings}

theorem Settings.Valid.acceptsName (h : s.Valid) (engine : Tls.Engine) (files : Files) :
    engine.ofSettings files s.tls ≠ .error .badServerName := by
  apply engine.ofSettings_acceptsName
  intro name hname
  have hbad : Option.filter (fun name => (ServerName.parse? name).isNone) (some name) = none :=
    hname ▸ h.serverName
  exact Option.isSome_iff_ne_none.mpr (by simpa using hbad)

theorem Settings.Valid.providesFor (h : s.Valid) {engine : Tls.Engine} {files : Files}
    {context : Tls.Context} (hload : engine.ofSettings files s.tls = .ok context) :
    s.tls.ProvidesFor context := by
  obtain ⟨hserver, hclient⟩ := Tls.Engine.ofSettings_supports hload
  have hwhole : s.tls.certPath.isSome = s.tls.keyPath.isSome := by
    simpa [hasWholeIdentity] using h.identity
  refine ⟨?_, ?_, ?_⟩
  · rw [hserver, ← hwhole, Bool.and_self]
  · rw [hwhole]
  · rw [hclient]

theorem Settings.Valid.understood (h : s.Valid) : s.Understood where
  address := Option.isSome_iff_exists.mp h.bindAddress
  binds := by
    intro id host e error hfailed
    obtain ⟨wanted, hwanted⟩ := Option.isSome_iff_exists.mp h.bindAddress
    obtain ⟨fault, hanswer, rfl⟩ := Listener.bind_failed hwanted hfailed
    exact ⟨wanted, fault, hwanted, hanswer, rfl⟩
  serverName := h.acceptsName
  roles := fun _ _ _ hload => h.providesFor hload
  level := by
    obtain ⟨level, hlevel⟩ := Option.isSome_iff_exists.mp h.logLevel
    exact ⟨level, Log.defaultDirective_eq_iff.mpr hlevel⟩
  timeout := by
    refine ⟨h.timeoutMs, ?_⟩
    have hpositive : 0 < s.handshake.timeoutMs.toNat := UInt64.pos_iff_ne_zero.mpr h.timeoutMs
    have htotal : (Endpoint.ofSettings s.handshake).timeout.total =
        s.handshake.timeoutMs.toNat * nanosPerMilli := Duration.total_ofMillis _
    rw [htotal]
    exact Nat.mul_ne_zero (Nat.ne_of_gt hpositive) (by decide)
  deadline := Endpoint.keeps_ofMillis rfl

/-- **What validation accepts, everybody accepts with the same meaning.** A listener reads the
address of valid settings; a context that is loaded from them never fails for its server name and
has exactly the roles that were asked for; the default filter names a known level, and for all
settings, valid or not, it does so exactly if validation has no objection to the level; and the
deadline is never zero, never replaced, and told of to the millisecond. -/
theorem valid_settings_are_understood (h : s.validate = .ok ()) :
    s.Understood ∧
      ∀ t : Settings,
        (∃ level : Log.Level, Log.defaultDirective t.observability.level = level.directive) ↔
          ∀ text, .badLogLevel text ∉ t.violations :=
  ⟨(Settings.violations_eq_nil_iff.mp (Settings.validate_eq_ok_iff.mp h)).understood,
    Settings.directive_iff⟩

/-- The longest deadline, a level in mixed case and a server name by its address. -/
theorem valid_settings_are_understood_at_limits :
    let s : Settings :=
      { listener := { bindAddress := "[::1]:0" }
        handshake := { timeoutMs := 18446744073709551615 }
        tls := { certPath := some "chain.pem", keyPath := some "key.pem", serverName := some "::1" }
        observability := { level := "DeBuG" } }
    let provider : TlsProvider := ⟨fun _ => some { server := some { chain := [] } }, false⟩
    let bound := (((Endpoint.ofSettings s.handshake).setProvider provider).connection
      ⟨7⟩).1.initTransport 0 .current ⟨0⟩ .server
    s.validate = .ok () ∧ s.Understood ∧
      later? 0 (Endpoint.ofSettings s.handshake).timeout =
        some (18446744073709551615 * nanosPerMilli) ∧
      bound.result = .ok () ∧
      (bound.connection.start 0).effects.filterMap Effect.told? =
        [.handshakeStarted ⟨7⟩ .server 18446744073709551615] := by
  intro s provider bound
  have hvalid : s.validate = .ok () := Settings.validate_eq_ok_iff.mpr (by decide +kernel)
  have hunderstood := (valid_settings_are_understood hvalid).1
  have hclock : 0 + UInt64.size * nanosPerMilli ≤ clockEnd := by decide
  have hlater := (hunderstood.deadline.armed 0 (Timer.new 0) hclock).1
  have hbound : bound.result = .ok () := rfl
  have hstarted := (hunderstood.deadline.started provider ⟨7⟩ 0 .current ⟨0⟩ .server hbound 0).1
  rw [Nat.zero_add] at hlater
  exact ⟨hvalid, hunderstood, hlater, hbound, hstarted⟩

end Config

end BoundedTls
