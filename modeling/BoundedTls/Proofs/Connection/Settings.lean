import BoundedTls.Proofs.Connection.Shape

/-!
# The settings of a connection

A connection has the three settings that an endpoint has: who prepares its stream, who supplies its
context, and its deadline. Its owner writes them one by one, or all three at once by stamping the
connection. No operation writes any of them, so each holds what it was given last. Nor does any
operation write the handle, which only the owner can replace.
-/

namespace BoundedTls

open BoundedTls.Time

/-! ## Settings -/

/-- The settings that an endpoint has, and a connection too. -/
inductive Shared where
  | preparer
  | provider
  | timeout
deriving DecidableEq, Repr

/-- What can stand in a setting. -/
abbrev Shared.Value : Shared → Type
  | preparer => Option StreamPreparer
  | provider => Option TlsProvider
  | timeout => Duration

def Endpoint.shared (e : Endpoint) : (k : Shared) → k.Value
  | .preparer => e.preparer
  | .provider => e.provider
  | .timeout => e.timeout

/-- The settings of a connection, as an endpoint would stamp them. -/
def Connection.settings (c : Connection) : Endpoint :=
  ⟨c.preparer, c.provider, c.timeout⟩

/-! ## Writing -/

namespace Setting

/-- What is written to a setting: a stamp writes all of them, and a handle none. -/
def given? : Setting → (k : Shared) → Option k.Value
  | preparer p, .preparer => some (some p)
  | provider p, .provider => some (some p)
  | timeout d, .timeout => some d
  | stamp e, k => some (e.shared k)
  | _, _ => none

/-- The settings after a setting was written to them. -/
def onto (s : Setting) (e : Endpoint) : Endpoint :=
  match s with
  | handle _ => e
  | preparer p => e.setPreparer p
  | provider p => e.setProvider p
  | timeout d => e.setTimeout d
  | stamp e' => e'

@[simp] theorem put_settings (s : Setting) (c : Connection) :
    (s.put c).1.settings = s.onto c.settings := by
  cases s <;> rfl

theorem onto_shared (s : Setting) (e : Endpoint) (k : Shared) :
    (s.onto e).shared k = (s.given? k).getD (e.shared k) := by
  cases s <;> cases k <;> rfl

end Setting

/-! ## Operations -/

namespace Connection

variable (c : Connection) (now : Instant)

@[simp] theorem initTransport_settings (runtime : Runtime) (stream : StreamId) (role : Role) :
    (c.initTransport now runtime stream role).connection.settings = c.settings := by
  rcases initTransport_connection c now runtime stream role with heq | ⟨context, -, -, heq⟩
  · rw [heq]
  · rw [heq]
    rfl

@[simp] theorem start_settings : (c.start now).connection.settings = c.settings := by
  unfold start
  split
  · rfl
  · split
    · simp only
      split <;> rfl
    · rfl

theorem poll_settings {c : Connection} {task : HandshakeTask} {ended : Option TaskResult}
    {timerFirst : Bool} {o : Outcome Unit} (h : c.poll task now ended timerFirst = some o) :
    o.connection.settings = c.settings := by
  rcases poll_cases h with rfl | ⟨result, rfl⟩ | ⟨timer, rfl⟩
  · rfl
  · rcases conclude_cases c result with ⟨_, -, -, heq⟩ | ⟨_, -, -, heq⟩ <;> rw [heq] <;> rfl
  · rfl

@[simp] theorem initTransport_handle (runtime : Runtime) (stream : StreamId) (role : Role) :
    (c.initTransport now runtime stream role).connection.handle = c.handle := by
  rcases initTransport_connection c now runtime stream role with heq | ⟨context, -, -, heq⟩ <;>
    rw [heq]

@[simp] theorem start_handle : (c.start now).connection.handle = c.handle := by
  unfold start
  split
  · rfl
  · split
    · simp only
      split <;> rfl
    · rfl

theorem poll_handle {c : Connection} {task : HandshakeTask} {ended : Option TaskResult}
    {timerFirst : Bool} {o : Outcome Unit} (h : c.poll task now ended timerFirst = some o) :
    o.connection.handle = c.handle := by
  rcases poll_cases h with rfl | ⟨result, rfl⟩ | ⟨timer, rfl⟩
  · rfl
  · cases result <;> rfl
  · rfl

end Connection

/-! ## Moves -/

namespace Life

variable {l l' : Life} {m : Move} {k : Shared}

/-- What a move writes to a setting. Only an owner who is in the middle of nothing can write. -/
def given? (l : Life) (m : Move) (k : Shared) : Option k.Value :=
  match l.activity, m with
  | .resting, .set s => s.given? k
  | _, _ => none

theorem given?_eq_none (h : ∀ s, m = .set s → l.activity ≠ .resting) : l.given? m k = none := by
  unfold given?
  split
  · exact absurd ‹_› (h _ rfl)
  · rfl

/-- No step but a setting writes the settings. -/
theorem settings_step (s : Step l m l') :
    l'.connection.settings = l.connection.settings ∨
      ∃ setting, m = .set setting ∧ l.activity = .resting ∧ l' = l.set setting := by
  cases s with
  | set s hresting => exact Or.inr ⟨s, rfl, hresting, rfl⟩
  | initTransport | attempt | refuse =>
    refine Or.inl ?_
    simp [Life.initTransport, Life.attempt]
  | resolve timerFirst hactivity hpoll => exact Or.inl (Connection.poll_settings _ hpoll)
  | _ => exact Or.inl rfl

/-- **Each setting holds what it was given last.** -/
theorem shared_step (l : Life) (m : Move) (k : Shared) :
    (l.step m).connection.settings.shared k =
      (l.given? m k).getD (l.connection.settings.shared k) := by
  by_cases hset : ∃ s, m = .set s ∧ l.activity = .resting
  · obtain ⟨s, rfl, hresting⟩ := hset
    have hstep : (l.step (.set s)).connection.settings = s.onto l.connection.settings := by
      simp [Life.step, hresting, Life.set]
    rw [hstep, s.onto_shared]
    simp [given?, hresting]
  · have hnone : l.given? m k = none :=
      given?_eq_none fun s hs hresting => hset ⟨s, hs, hresting⟩
    rcases settings_step (step_is_step l m) with hsame | ⟨s, rfl, hresting, -⟩
    · rw [hsame, hnone]
      rfl
    · exact absurd ⟨s, rfl, hresting⟩ hset

/-- **A connection keeps its handle** unless its owner gives it another one. -/
theorem handle_step (s : Step l m l') (h : ∀ handle, m ≠ .set (.handle handle)) :
    l'.connection.handle = l.connection.handle := by
  cases s with
  | set s hresting =>
    cases s with
    | handle handle => exact absurd rfl (h handle)
    | timeout | preparer | provider | stamp => rfl
  | initTransport runtime stream role hresting =>
    exact Connection.initTransport_handle _ _ runtime stream role
  | attempt | refuse => exact Connection.start_handle _ _
  | resolve timerFirst hactivity hpoll => exact Connection.poll_handle _ hpoll
  | _ => rfl

end Life

end BoundedTls
