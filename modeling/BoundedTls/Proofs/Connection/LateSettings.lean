import BoundedTls.Proofs.Connection.Order
import BoundedTls.Proofs.Connection.Settings
import Mathlib.Data.Set.Defs

/-!
# Settings that come too late

The provider is read when a connection takes a stream, the preparer and the deadline when its
handshake begins, and the deadline once more to tell that it has passed. What is written to a
setting later is kept and influences nothing: two lives of one connection that differ in such
settings only go through the same states, call the same handlers and have the same seen of them.

## Architecture

- **Late settings**: what is read no more in a phase (`Shared.Spent`), and continuations that differ
  in late settings only (`Move.Alike`).
- **Dressing**: a life with other settings (`Life.dressed`). Every operation that does not read what
  was changed commutes with it (`Life.step_dressed`).
- **Two runs**: lives that are the same but for late settings stay so (`Life.Inert`).
- **Deadlines**: the deadline that a timeout tells is the one that the attempt was started under.
-/

namespace BoundedTls

open BoundedTls.Time

/-! ## Late settings -/

/-- In this phase nothing reads the setting any more. -/
def Shared.Spent : Shared → Phase → Prop
  | provider, p => p ≠ .idle
  | preparer, p | timeout, p => p ≠ .idle ∧ p ≠ .ready

/-- A setting that is read no more is never read again. -/
theorem Shared.Spent.later {k : Shared} {p q : Phase} (h : k.Spent p)
    (hrank : q = p ∨ p.rank < q.rank) : k.Spent q := by
  rcases hrank with rfl | hup
  · exact h
  · have hleft {r : Phase} (hr : r.rank ≤ p.rank) : q ≠ r := by
      rintro rfl
      exact Nat.lt_irrefl _ (Nat.lt_of_lt_of_le hup hr)
    have hidle : q ≠ .idle := hleft (Nat.zero_le _)
    cases k with
    | provider => exact hidle
    | preparer | timeout =>
      refine ⟨hidle, hleft ?_⟩
      obtain ⟨hone, htwo⟩ := h
      cases p with
      | idle => exact absurd rfl hone
      | ready => exact absurd rfl htwo
      | handshaking | established | failed | timedOut | shutdown => decide

/-- The one setting that the owner writes, if there is only one. -/
def Setting.kind? : Setting → Option Shared
  | preparer _ => some .preparer
  | provider _ => some .provider
  | timeout _ => some .timeout
  | handle _ | stamp _ => none

theorem Setting.given?_of_kind {s : Setting} {k k' : Shared} (h : s.kind? = some k) (hk : k' ≠ k) :
    s.given? k' = none := by
  cases s with
  | handle | stamp => cases h
  | preparer | provider | timeout =>
    cases h
    cases k' with
    | preparer | provider | timeout => first | rfl | exact absurd rfl hk

/-- Two continuations with the same operations and the same events outside, which differ only in the
late settings that are written. -/
inductive Move.Alike (late : Set Shared) : List Move → List Move → Prop where
  | nil : Alike late [] []
  | same {a b : List Move} (m : Move) : Alike late a b → Alike late (m :: a) (m :: b)
  /-- The endpoints that stamp the connection have other late settings. -/
  | stamped {a b : List Move} {e e' : Endpoint} :
      (∀ k ∉ late, e.shared k = e'.shared k) → Alike late a b →
      Alike late (.set (.stamp e) :: a) (.set (.stamp e') :: b)
  /-- A late setting is written in the first continuation. -/
  | first {a b : List Move} {s : Setting} {k : Shared} :
      s.kind? = some k → k ∈ late → Alike late a b → Alike late (.set s :: a) b
  | second {a b : List Move} {s : Setting} {k : Shared} :
      s.kind? = some k → k ∈ late → Alike late a b → Alike late a (.set s :: b)

/-! ## Dressing -/

namespace Connection

/-- The connection with the settings of an endpoint. -/
def dressed (c : Connection) (e : Endpoint) : Connection :=
  (e.stamp c).1

def Outcome.dressed {α : Type} (o : Outcome α) (e : Endpoint) : Outcome α :=
  { o with connection := o.connection.dressed e }

variable {c : Connection} {e : Endpoint} {now : Instant}

@[simp] theorem dressed_settings (c : Connection) (e : Endpoint) :
    (c.dressed e).settings = e := rfl

@[simp] theorem dressed_phase (c : Connection) (e : Endpoint) : (c.dressed e).phase = c.phase := rfl

/-- The description of a connection tells one of its settings. -/
theorem dressed_describe (h : c.timeout = e.timeout) : (c.dressed e).describe = c.describe := by
  have hhandle : (c.dressed e).handle = c.handle := rfl
  have hrole : (c.dressed e).role = c.role := rfl
  have htimer : (c.dressed e).timerState = c.timerState := rfl
  have htimeout : (c.dressed e).timeout = c.timeout := h.symm
  unfold describe
  rw [hhandle, hrole, dressed_phase, htimer, htimeout]

/-- An idle connection reads its provider to take a stream. -/
theorem initTransport_dressed (h : c.phase = .idle → c.provider = e.provider)
    (runtime : Runtime) (stream : StreamId) (role : Role) :
    (c.dressed e).initTransport now runtime stream role =
      (c.initTransport now runtime stream role).dressed e := by
  by_cases hidle : c.phase = .idle
  · obtain ⟨handle, mine, bound, channel, timer, timeout, phase, abandoned, preparer, provider⟩ := c
    obtain ⟨preparer', provider', timeout'⟩ := e
    cases hidle
    cases h rfl
    simp only [initTransport, dressed, Endpoint.stamp]
    cases provider with
    | none => rfl
    | some provider =>
      simp only
      cases (provider.supply handle).filter fun context => context.supports role <;> rfl
  · simp [initTransport, hidle, Outcome.dressed]

/-- A ready connection reads its preparer and its deadline to begin a handshake. -/
theorem start_dressed (h : c.phase = .ready → c.preparer = e.preparer ∧ c.timeout = e.timeout)
    (now : Instant) : (c.dressed e).start now = (c.start now).dressed e := by
  by_cases hready : c.phase = .ready
  · obtain ⟨handle, role, runtime, channel, timer, timeout, phase, abandoned, preparer,
      provider⟩ := c
    obtain ⟨preparer', provider', timeout'⟩ := e
    obtain ⟨hpreparer, htimeout⟩ := h hready
    cases hready
    cases hpreparer
    cases htimeout
    simp only [start, dressed, Endpoint.stamp]
    cases channel with
    | none => rfl
    | some channel =>
      cases timer with
      | none => rfl
      | some timer =>
        cases runtime with
        | none => rfl
        | some runtime =>
          cases role with
          | none => rfl
          | some role =>
            simp only
            cases channel.startHandshake role <;> rfl
  · rw [start_of_not_ready hready, start_of_not_ready (c := c.dressed e) hready]
    rfl

@[simp] theorem conclude_dressed (c : Connection) (e : Endpoint) (result : TaskResult) :
    (c.dressed e).conclude result = (c.conclude result).dressed e := by
  cases result <;> rfl

/-- A handshake reads its deadline once more to tell that it has passed. -/
theorem poll_dressed (h : c.timeout = e.timeout) (task : HandshakeTask) (now : Instant)
    (ended : Option TaskResult) (timerFirst : Bool) :
    (c.dressed e).poll task now ended timerFirst =
      (c.poll task now ended timerFirst).map (·.dressed e) := by
  have hexpire (timer : Timer) :
      (c.dressed e).expire timer task = (c.expire timer task).dressed e := by
    simp [expire, dressed, Endpoint.stamp, Outcome.dressed, h]
  have htimer : (c.dressed e).timer = c.timer := rfl
  unfold poll
  rw [htimer]
  cases c.timer with
  | none => rfl
  | some timer =>
    -- Neither what is looked at nor what is looked at first depends on the settings.
    simp only [hexpire]
    rcases timer.poll now with ⟨_ | _ | _, timer⟩ <;> cases ended <;> cases timerFirst <;> simp

/-- A timeout tells the deadline that the connection has. -/
theorem timeout_of_poll {task : HandshakeTask} {ended : Option TaskResult} {timerFirst : Bool}
    {o : Outcome Unit} {d : Duration} (hpoll : c.poll task now ended timerFirst = some o)
    (hresult : o.result = .error (.timeout d)) : c.timeout = d := by
  rcases poll_cases hpoll with rfl | ⟨result, rfl⟩ | ⟨timer, rfl⟩
  · cases hresult
  · rcases conclude_cases c result with ⟨_, -, hok, -⟩ | ⟨e, herror, hsame, -⟩
    · rw [hok] at hresult
      cases hresult
    · -- The result of a task is no timeout.
      obtain rfl : e = .timeout d := Except.error.inj (hsame.symm.trans hresult)
      cases result with
      | secured => cases herror
      | fault fault =>
        simp only [outcomeOf, ConnectionError.ofHandshake] at herror
        split at herror <;> cases herror
      | broken => cases herror
  · cases hresult
    rfl

end Connection

namespace Life

/-- The life of the connection with the settings of an endpoint. -/
def dressed (l : Life) (e : Endpoint) : Life :=
  { l with connection := l.connection.dressed e }

section

variable (l : Life) (e : Endpoint)

@[simp] theorem dressed_connection : (l.dressed e).connection = l.connection.dressed e := rfl

@[simp] theorem dressed_now : (l.dressed e).now = l.now := rfl

@[simp] theorem dressed_activity : (l.dressed e).activity = l.activity := rfl

@[simp] theorem dressed_ended : (l.dressed e).ended = l.ended := rfl

@[simp] theorem dressed_task? : (l.dressed e).task? = l.task? := rfl

@[simp] theorem dressed_farewellTo : (l.dressed e).farewellTo = l.farewellTo := rfl

theorem dressed_finish (result : TaskResult) :
    (l.dressed e).finish result = (l.finish result).dressed e := by
  unfold Life.finish
  simp only [dressed_task?, dressed_ended]
  split
  · split <;> rfl
  · rfl

/-- A setting is written to the connection and to what it is dressed with alike. -/
theorem dressed_set (s : Setting) : (l.dressed e).set s = (l.set s).dressed (s.onto e) := by
  cases s <;> rfl

/-- A single setting is written without anything being seen of it. -/
theorem set_of_kind {l : Life} {s : Setting} {k : Shared} (h : s.kind? = some k) :
    l.set s = l.dressed (s.onto l.connection.settings) := by
  cases s with
  | handle | stamp => cases h
  | preparer | provider | timeout =>
    simp [Life.set, Setting.put, Life.become, dressed, Connection.dressed, Setting.onto,
      Endpoint.stamp, Connection.settings, Connection.setPreparer, Connection.setProvider,
      Connection.setTimeout, Endpoint.setPreparer, Endpoint.setProvider, Endpoint.setTimeout]

/-- An owner who waits for something writes nothing. -/
theorem step_set_of_busy {l : Life} (h : l.activity ≠ .resting) (s : Setting) :
    l.step (.set s) = l := by
  unfold Life.step
  split <;> first | rfl | contradiction

theorem dressed_shutdown : (l.dressed e).shutdown = l.shutdown.dressed e := by
  unfold Life.shutdown
  rw [dressed_farewellTo]
  split <;> rfl

/-- The move reads no setting in which the endpoint differs from the connection. -/
structure Unread (l : Life) (e : Endpoint) : Prop where
  provider : l.connection.phase = .idle → l.connection.provider = e.provider
  preparer : l.connection.phase = .ready → l.connection.preparer = e.preparer
  timeout : (l.connection.phase = .ready ∨ ∃ a, l.activity = .attempting a) →
    l.connection.timeout = e.timeout

variable {l e}

theorem Unread.initTransport (h : l.Unread e) (runtime : Runtime) (stream : StreamId)
    (role : Role) :
    (l.dressed e).initTransport runtime stream role =
      (l.initTransport runtime stream role).dressed e := by
  have hbound : (l.dressed e).connection.initTransport l.now runtime stream role =
      (l.connection.initTransport l.now runtime stream role).dressed e :=
    Connection.initTransport_dressed h.provider runtime stream role
  unfold Life.initTransport
  rw [dressed_now, hbound]
  rfl

theorem Unread.begin (h : l.Unread e) (call : Nat) (delivery : Delivery) :
    (l.dressed e).begin call delivery = (l.begin call delivery).dressed e := by
  have hstart : (l.dressed e).connection.start l.now = (l.connection.start l.now).dressed e :=
    Connection.start_dressed (fun hready => ⟨h.preparer hready, h.timeout (Or.inl hready)⟩) l.now
  unfold Life.begin
  rw [dressed_now, hstart]
  simp only [Connection.Outcome.dressed]
  split <;> rfl

theorem Unread.look (h : l.Unread e) {a : Attempt} (hactivity : l.activity = .attempting a)
    (timerFirst : Bool) : (l.dressed e).look a timerFirst = (l.look a timerFirst).dressed e := by
  have htimeout : l.connection.timeout = e.timeout := h.timeout (Or.inr ⟨a, hactivity⟩)
  unfold Life.look
  rw [dressed_connection, dressed_now, dressed_ended, Connection.poll_dressed htimeout]
  cases l.connection.poll a.task l.now l.ended timerFirst <;> rfl

/-- **What is not read does not matter.** -/
theorem Unread.step (h : l.Unread e) {m : Move} (hm : ∀ s, m ≠ .set s) :
    (l.dressed e).step m = (l.step m).dressed e := by
  unfold Life.step
  rw [dressed_activity]
  split
  · rfl
  · exact dressed_finish ..
  · exact absurd rfl (hm _)
  · exact h.initTransport ..
  · rfl
  · exact h.begin ..
  · rfl
  · exact h.look ‹_› _
  · rfl
  · exact dressed_shutdown ..
  · rfl
  · rfl
  · rfl
  · rfl

end

/-! ## Two runs -/

/-- The lives are the same, except for late settings of the connection. -/
structure SameBut (late : Set Shared) (a b : Life) : Prop where
  same : b = a.dressed b.connection.settings
  others : ∀ k ∉ late, b.connection.settings.shared k = a.connection.settings.shared k

/-- The description of a connection tells one of its settings. -/
theorem SameBut.describe {late : Set Shared} {a b : Life} (h : SameBut late a b)
    (htimeout : .timeout ∉ late) : b.connection.describe = a.connection.describe := by
  have hsame : b.connection.settings.timeout = a.connection.timeout := h.others .timeout htimeout
  rw [← Connection.dressed_describe hsame.symm, ← dressed_connection, ← h.same]

/-- A handshake is waited for since a look has found the connection ready. -/
theorem attempting_cases {l l' : Life} {m : Move} (h : l.Sound) (s : Step l m l') {a : Attempt}
    (hactivity : l'.activity = .attempting a) :
    l.activity = .attempting a ∧ l'.connection = l.connection ∨
      ∃ first, m = .look first ∧ l.activity = .called a.call a.delivery ∧
        l.connection.phase = .ready := by
  cases s with
  | idle | pass | finish => exact Or.inl ⟨hactivity, rfl⟩
  | attempt first hcalled hok =>
    cases hactivity
    exact Or.inr ⟨first, rfl, hcalled, (Connection.phase_of_start_ok h.shaped hok).1⟩
  | set _ hresting | initTransport _ _ _ hresting =>
    have hbusy : l.activity = .attempting a := hactivity
    rw [hresting] at hbusy
    cases hbusy
  | call | refuse | resolve | forget | giveUp | release | shut | farewell | leave | drop =>
    cases hactivity

/-- Lives that are the same but for settings that are read no more. -/
structure Inert (late : Set Shared) (a b : Life) : Prop extends SameBut late a b where
  sound : a.Sound
  spent : ∀ k ∈ late, k.Spent a.connection.phase
  /-- A handshake that is waited for still has a deadline to tell. -/
  pending : ∀ att, a.activity = .attempting att → b.connection.timeout = a.connection.timeout

namespace Inert

variable {late : Set Shared} {a b : Life}

theorem refl (h : a.Sound) (hspent : ∀ k ∈ late, k.Spent a.connection.phase) : Inert late a a where
  same := rfl
  others := fun _ _ => rfl
  sound := h
  spent := hspent
  pending := fun _ _ => rfl

theorem activity_eq (h : Inert late a b) : b.activity = a.activity := by
  rw [h.same]
  rfl

/-- The next move reads nothing in which the lives differ. -/
theorem unread (h : Inert late a b) : a.Unread b.connection.settings where
  provider := fun hidle => (h.others .provider fun hlate => h.spent _ hlate hidle).symm
  preparer := fun hready => (h.others .preparer fun hlate => (h.spent _ hlate).2 hready).symm
  timeout := by
    rintro (hready | ⟨att, hactivity⟩)
    · exact (h.others .timeout fun hlate => (h.spent _ hlate).2 hready).symm
    · exact (h.pending att hactivity).symm

/-- Both lives make a move that is no setting. -/
theorem step (h : Inert late a b) {m : Move} (hm : ∀ s, m ≠ .set s) :
    Inert late (a.step m) (b.step m) := by
  have hstep : b.step m = (a.step m).dressed b.connection.settings := by
    rw [← h.unread.step hm, ← h.same]
  have hkept : (a.step m).connection.settings = a.connection.settings := by
    rcases settings_step (step_is_step a m) with hsame | ⟨s, rfl, -, -⟩
    · exact hsame
    · exact absurd rfl (hm s)
  have hsettings : (b.step m).connection.settings = b.connection.settings := by
    rw [hstep]
    rfl
  refine ⟨⟨?_, ?_⟩, sound_step h.sound (step_is_step a m), ?_, ?_⟩
  · rw [hsettings]
    exact hstep
  · intro k hk
    rw [hsettings, hkept]
    exact h.others k hk
  · intro k hk
    exact (h.spent k hk).later (rank_step h.sound (step_is_step a m))
  · intro att hactivity
    have htimeout : b.connection.timeout = a.connection.timeout := by
      rcases attempting_cases h.sound (step_is_step a m) hactivity with
        ⟨hbefore, -⟩ | ⟨_, -, -, hready⟩
      · exact h.pending att hbefore
      · exact (h.unread.timeout (Or.inl hready)).symm
    calc (b.step m).connection.timeout
        = b.connection.timeout := congrArg Endpoint.timeout hsettings
      _ = a.connection.timeout := htimeout
      _ = (a.step m).connection.timeout := (congrArg Endpoint.timeout hkept).symm

/-- Settings are written by owners who are in the middle of nothing. -/
theorem written (h : Inert late a b) {a' b' : Life} (hsame : b' = a'.dressed b'.connection.settings)
    (hothers : ∀ k ∉ late, b'.connection.settings.shared k = a'.connection.settings.shared k)
    (hsound : a'.Sound) (hphase : a'.connection.phase = a.connection.phase)
    (hresting : a'.activity = .resting) : Inert late a' b' where
  same := hsame
  others := hothers
  sound := hsound
  spent := hphase ▸ h.spent
  pending := by
    intro att hactivity
    rw [hresting] at hactivity
    cases hactivity

/-- Both lives have a setting written to them, the same or one that differs in late settings. -/
theorem set (h : Inert late a b) {s s' : Setting}
    (hset : ∀ e, (a.dressed e).set s' = (a.set s).dressed (s'.onto e))
    (hothers : ∀ k ∉ late, s'.given? k = s.given? k) :
    Inert late (a.step (.set s)) (b.step (.set s')) := by
  have hactivity := h.activity_eq
  by_cases hresting : a.activity = .resting
  · have hfirst : a.step (.set s) = a.set s := by simp [Life.step, hresting]
    have hsecond : b.step (.set s') = (a.set s).dressed (s'.onto b.connection.settings) := by
      rw [← hset, ← h.same]
      simp [Life.step, hactivity, hresting]
    rw [hfirst, hsecond]
    refine h.written rfl ?_ ?_ (s.put_phase a.connection) hresting
    · intro k hk
      have hwritten : (a.set s).connection.settings = s.onto a.connection.settings :=
        s.put_settings a.connection
      rw [hwritten, dressed_connection, Connection.dressed_settings, s.onto_shared, s'.onto_shared,
        hothers k hk, h.others k hk]
    · exact sound_step h.sound (.set s hresting)
  · rw [step_set_of_busy hresting, step_set_of_busy (hactivity ▸ hresting)]
    exact h

theorem first (h : Inert late a b) {s : Setting} {k : Shared} (hkind : s.kind? = some k)
    (hlate : k ∈ late) : Inert late (a.step (.set s)) b := by
  by_cases hresting : a.activity = .resting
  · have hstep : a.step (.set s) = a.dressed (s.onto a.connection.settings) := by
      rw [← set_of_kind hkind]
      simp [Life.step, hresting]
    have hsound := sound_step h.sound (step_is_step a (.set s))
    rw [hstep] at hsound ⊢
    refine h.written h.same (fun k' hk' => ?_) hsound rfl hresting
    rw [dressed_connection, Connection.dressed_settings, s.onto_shared,
      Setting.given?_of_kind hkind (ne_of_mem_of_not_mem hlate hk').symm]
    exact h.others k' hk'
  · rw [step_set_of_busy hresting]
    exact h

theorem second (h : Inert late a b) {s : Setting} {k : Shared} (hkind : s.kind? = some k)
    (hlate : k ∈ late) : Inert late a (b.step (.set s)) := by
  by_cases hresting : a.activity = .resting
  · have hstep : b.step (.set s) = b.dressed (s.onto b.connection.settings) := by
      rw [← set_of_kind hkind]
      simp [Life.step, h.activity_eq, hresting]
    rw [hstep]
    refine h.written ?_ (fun k' hk' => ?_) h.sound rfl hresting
    · rw [h.same]
      rfl
    · rw [dressed_connection, Connection.dressed_settings, s.onto_shared,
        Setting.given?_of_kind hkind (ne_of_mem_of_not_mem hlate hk').symm]
      exact h.others k' hk'
  · rw [step_set_of_busy (h.activity_eq ▸ hresting)]
    exact h

/-- **Late settings stay without influence.** -/
theorem run (h : Inert late a b) {first second : List Move}
    (halike : Move.Alike late first second) : Inert late (a.run first) (b.run second) := by
  -- Both lives change with every move, so both are general.
  induction halike generalizing a b with
  | nil => exact h
  | same m _ ih =>
    by_cases hset : ∃ s, m = .set s
    · obtain ⟨s, rfl⟩ := hset
      exact ih (h.set (fun e => dressed_set a e s) fun _ _ => rfl)
    · exact ih (h.step fun s hs => hset ⟨s, hs⟩)
  | stamped hagree _ ih =>
    exact ih (h.set (fun _ => rfl) fun k hk => congrArg some (hagree k hk).symm)
  | first hkind hlate _ ih => exact ih (h.first hkind hlate)
  | second hkind hlate _ ih => exact ih (h.second hkind hlate)

end Inert

/-! ## Deadlines -/

/-- It was told that the handshake of the call did not end in this time. -/
def Expired (l : Life) (call : Nat) (d : Duration) : Prop :=
  .calledBack call (.error (.timeout d)) ∈ l.trace ∨ .returned call (.error (.timeout d)) ∈ l.trace

/-- Among the moves is the look that started the attempt of the call, and the deadline was `d`. -/
def StartedUnder (l : Life) (moves : List Move) (call : Nat) (d : Duration) : Prop :=
  ∃ before first after delivery task, moves = before ++ .look first :: after ∧
    (l.run before).activity = .called call delivery ∧
    ((l.run before).step (.look first)).activity = .attempting ⟨call, delivery, task⟩ ∧
    (l.run before).connection.timeout = d

variable {l l' : Life} {m : Move}

theorem StartedUnder.snoc {moves : List Move} {call : Nat} {d : Duration}
    (h : l.StartedUnder moves call d) (m : Move) : l.StartedUnder (moves ++ [m]) call d := by
  obtain ⟨before, first, after, delivery, task, rfl, hcalled, hbegan, hd⟩ := h
  exact ⟨before, first, after ++ [m], delivery, task, by simp, hcalled, hbegan, hd⟩

/-- A look that finds the deadline passed tells the one that the connection has now. -/
theorem expired_step (h : l.Sound) (s : Step l m l') {call : Nat} {d : Duration}
    (hexpired : l'.Expired call d) :
    l.Expired call d ∨ ∃ a, l.activity = .attempting a ∧ a.call = call ∧
      l.connection.timeout = d := by
  cases s with
  | idle | pass | finish => exact Or.inl hexpired
  | @resolve a o timerFirst hactivity hpoll =>
    have hnew : l.Expired call d ∨ a.call = call ∧ o.result = .error (.timeout d) := by
      cases hdelivery : a.delivery with
      | callback =>
        have hback : .calledBack call (.error (.timeout d)) ∈ l.trace ∨
            call = a.call ∧ .error (.timeout d) = o.result ∨
            .returned call (.error (.timeout d)) ∈ l.trace := by
          simpa [Expired, hdelivery, Report.resolved, Report.seen, or_assoc] using hexpired
        rcases hback with hold | ⟨hcall, hresult⟩ | hold
        · exact Or.inl (Or.inl hold)
        · exact Or.inr ⟨hcall.symm, hresult.symm⟩
        · exact Or.inl (Or.inr hold)
      | returned =>
        have hreturned : .calledBack call (.error (.timeout d)) ∈ l.trace ∨
            .returned call (.error (.timeout d)) ∈ l.trace ∨
            call = a.call ∧ .error (.timeout d) = o.result := by
          simpa [Expired, hdelivery, Report.resolved, Report.seen] using hexpired
        rcases hreturned with hold | hold | ⟨hcall, hresult⟩
        · exact Or.inl (Or.inl hold)
        · exact Or.inl (Or.inr hold)
        · exact Or.inr ⟨hcall.symm, hresult.symm⟩
    refine hnew.imp_right fun ⟨hcall, hresult⟩ => ⟨a, hactivity, hcall, ?_⟩
    exact Connection.timeout_of_poll hpoll hresult
  | refuse first hactivity herror =>
    -- A call that is refused is told the phase.
    obtain ⟨-, hstart⟩ := Connection.start_error h.shaped herror
    rw [hstart] at herror
    obtain rfl := Except.error.inj herror
    refine Or.inl ?_
    simpa [Expired, hstart, Report.refused, Report.seen] using hexpired
  | _ =>
    refine Or.inl ?_
    simpa [Expired, Life.set, Life.initTransport, Life.call, Life.attempt, Life.giveUp,
      Life.beginShutdown, Life.endShutdown, Life.leave, Life.discard, Report.seen,
      Report.cancelled] using hexpired

/-- Every attempt, and every timeout that was told, is traced to the look that started it. -/
structure Dated (l : Life) (moves : List Move) : Prop where
  sound : (l.run moves).Sound
  attempting : ∀ a, (l.run moves).activity = .attempting a →
    l.StartedUnder moves a.call (l.run moves).connection.timeout
  expired : ∀ call d, (l.run moves).Expired call d → l.StartedUnder moves call d

theorem dated_snoc {before : List Move}
    (s : Step (l.run before) m (l.run (before ++ [m]))) (h : l.Dated before) :
    l.Dated (before ++ [m]) where
  sound := sound_step h.sound s
  attempting := by
    intro a hactivity
    rcases attempting_cases h.sound s hactivity with ⟨hbefore, hsame⟩ | ⟨first, rfl, hcalled, -⟩
    · rw [hsame]
      exact (h.attempting a hbefore).snoc m
    · -- This look has started the attempt, and a look writes no setting.
      have hkept : (l.run (before ++ [.look first])).connection.timeout =
          (l.run before).connection.timeout := by
        rcases settings_step s with hsame | ⟨_, hset, -⟩
        · exact congrArg Endpoint.timeout hsame
        · cases hset
      rw [run_append] at hactivity
      exact ⟨before, first, [], a.delivery, a.task, rfl, hcalled, hactivity, hkept.symm⟩
  expired := by
    intro call d hexpired
    rcases expired_step h.sound s hexpired with hold | ⟨a, hactivity, rfl, rfl⟩
    · exact (h.expired call d hold).snoc m
    · exact (h.attempting a hactivity).snoc m

/-! ## Every life -/

/-- **Settings that come too late have no influence.** Take any state that the life of a connection
reaches, and two continuations of it with the same operations and the same events outside, which
differ only in settings that are read no more: the provider once the connection is not idle, and
also the preparer and the deadline once it is not ready either. They differ in these settings and in
nothing else, neither in a state nor in what was seen; so the description of the connection differs
in the deadline at most. A timeout tells the deadline that its attempt was started under. -/
theorem late_settings_are_inert (handle : Handle) (now : Instant) (moves : List Move) :
    let l := (new handle now).run moves
    (∀ late : Set Shared, (∀ k ∈ late, k.Spent l.connection.phase) →
      ∀ a b, Move.Alike late a b → SameBut late (l.run a) (l.run b) ∧
        (.timeout ∉ late → (l.run b).connection.describe = (l.run a).connection.describe)) ∧
    (∀ call d, l.Expired call d → (new handle now).StartedUnder moves call d) := by
  intro l
  have hsound : l.Sound := sound_run handle now moves
  refine ⟨fun late hspent a b halike => ?_, ?_⟩
  · have hinert : Inert late (l.run a) (l.run b) := (Inert.refl hsound hspent).run halike
    exact ⟨hinert.toSameBut, hinert.describe⟩
  · have hdated : (new handle now).Dated moves :=
      history_induction ⟨new_sound handle now, by simp [new], by simp [Expired, new]⟩
        (fun _ _ s h => dated_snoc s h) moves
    exact hdated.expired

end Life

end BoundedTls
