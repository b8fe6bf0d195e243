import BoundedTls.Proofs.Connection.Life
import BoundedTls.Proofs.Time.Deadline

/-!
# The shape of a connection

The phase of a connection decides which of its parts are there and what they hold. `Parts` lists
the combinations, one rule for each; every operation on a connection leads from one to another,
and each operation says exactly what it does on a connection of a given shape.
-/

namespace BoundedTls

open BoundedTls.Time

/-! ## Shapes -/

/-- The combinations of phase, role, runtime, channel, timer and abandoned handshake. -/
inductive Parts : Phase → Option Role → Option Runtime → Option Channel → Option Timer →
    Option HandshakeTask → Prop where
  | idle : Parts .idle none none none none none
  | ready {role : Role} {runtime : Runtime} {context : Tls.Context} (stream : StreamId)
      (deadline : Instant) :
      context.supports role = true →
      Parts .ready (some role) (some runtime) (some ⟨context, .raw stream⟩)
        (some ⟨deadline, .idle⟩) none
  | handshaking {role : Role} {runtime : Runtime} {context : Tls.Context} (deadline : Instant) :
      context.supports role = true →
      Parts .handshaking (some role) (some runtime) (some ⟨context, .handshaking⟩)
        (some ⟨deadline, .armed⟩) none
  | established {role : Role} {runtime : Runtime} {context : Tls.Context} (stream : StreamId)
      (deadline : Instant) :
      context.supports role = true →
      Parts .established (some role) (some runtime) (some ⟨context, .secure stream⟩)
        (some ⟨deadline, .cancelled⟩) none
  /-- A shutdown has taken the secured stream, and has not come to its end. -/
  | cutShort {role : Role} {runtime : Runtime} {context : Tls.Context} (deadline : Instant) :
      context.supports role = true →
      Parts .established (some role) (some runtime) (some ⟨context, .closed⟩)
        (some ⟨deadline, .cancelled⟩) none
  | failed {role : Role} {runtime : Runtime} {context : Tls.Context} (deadline : Instant) :
      context.supports role = true →
      Parts .failed (some role) (some runtime) (some ⟨context, .handshaking⟩)
        (some ⟨deadline, .cancelled⟩) none
  | timedOut {role : Role} {runtime : Runtime} {context : Tls.Context} (deadline : Instant)
      (task : HandshakeTask) :
      context.supports role = true →
      Parts .timedOut (some role) (some runtime) (some ⟨context, .handshaking⟩)
        (some ⟨deadline, .expired⟩) (some task)
  /-- Shut down before it was bound to a stream. -/
  | unused : Parts .shutdown none none none none none
  | shutdown {role : Role} {runtime : Runtime} {context : Tls.Context} {timer : Timer} :
      context.supports role = true → timer.state ≠ .armed →
      Parts .shutdown (some role) (some runtime) (some ⟨context, .closed⟩) (some timer) none

namespace Connection

/-- The parts of the connection fit its phase. -/
def Shaped (c : Connection) : Prop :=
  Parts c.phase c.role c.runtime c.channel c.timer c.abandoned

theorem new_shaped (handle : Handle) : (new handle).Shaped :=
  .idle

/-- An idle connection has no parts. -/
theorem Shaped.of_idle {c : Connection} (h : c.Shaped) (hphase : c.phase = .idle) :
    c.role = none ∧ c.runtime = none ∧ c.channel = none ∧ c.timer = none ∧ c.abandoned = none := by
  unfold Shaped at h
  generalize c.role = role, c.runtime = runtime, c.channel = channel, c.timer = timer,
    c.abandoned = abandoned at *
  rw [hphase] at h
  cases h
  exact ⟨rfl, rfl, rfl, rfl, rfl⟩

/-- A ready connection holds a raw stream, a timer that was never armed, a runtime, and a context
for its role. -/
theorem Shaped.of_ready {c : Connection} (h : c.Shaped) (hphase : c.phase = .ready) :
    ∃ role runtime context stream deadline, context.supports role = true ∧ c.role = some role ∧
      c.runtime = some runtime ∧ c.channel = some ⟨context, .raw stream⟩ ∧
      c.timer = some ⟨deadline, .idle⟩ ∧ c.abandoned = none := by
  unfold Shaped at h
  -- With the parts as variables and the phase known, one rule is left.
  generalize c.role = role, c.runtime = runtime, c.channel = channel, c.timer = timer,
    c.abandoned = abandoned at *
  rw [hphase] at h
  cases h with
  | ready stream deadline hsupports =>
    exact ⟨_, _, _, stream, deadline, hsupports, rfl, rfl, rfl, rfl, rfl⟩

/-- A handshaking connection has handed its stream over and has armed its timer. -/
theorem Shaped.of_handshaking {c : Connection} (h : c.Shaped) (hphase : c.phase = .handshaking) :
    ∃ role runtime context deadline, context.supports role = true ∧ c.role = some role ∧
      c.runtime = some runtime ∧ c.channel = some ⟨context, .handshaking⟩ ∧
      c.timer = some ⟨deadline, .armed⟩ ∧ c.abandoned = none := by
  unfold Shaped at h
  generalize c.role = role, c.runtime = runtime, c.channel = channel, c.timer = timer,
    c.abandoned = abandoned at *
  rw [hphase] at h
  cases h with
  | handshaking deadline hsupports =>
    exact ⟨_, _, _, deadline, hsupports, rfl, rfl, rfl, rfl, rfl⟩

end Connection

/-- A timer that was called off does not count down. -/
theorem Time.Timer.cancel_not_armed (t : Timer) : t.cancel.2.state ≠ .armed := by
  unfold Timer.cancel
  split
  · simp
  · assumption

/-! ## Settings -/

namespace Setting

variable (s : Setting) (c : Connection)

@[simp] theorem put_phase : (s.put c).1.phase = c.phase := by
  cases s <;> rfl

@[simp] theorem put_role : (s.put c).1.role = c.role := by
  cases s <;> rfl

@[simp] theorem put_runtime : (s.put c).1.runtime = c.runtime := by
  cases s <;> rfl

@[simp] theorem put_channel : (s.put c).1.channel = c.channel := by
  cases s <;> rfl

@[simp] theorem put_timer : (s.put c).1.timer = c.timer := by
  cases s <;> rfl

@[simp] theorem put_abandoned : (s.put c).1.abandoned = c.abandoned := by
  cases s <;> rfl

theorem put_shaped (h : c.Shaped) : (s.put c).1.Shaped := by
  simpa [Connection.Shaped] using h

end Setting

namespace Connection

variable {c : Connection} {now : Instant}

/-! ## Taking a stream -/

/-- What binding leaves of a connection: itself, or a ready connection in the place of an idle
one. -/
theorem initTransport_connection (c : Connection) (now : Instant) (runtime : Runtime)
    (stream : StreamId) (role : Role) :
    (c.initTransport now runtime stream role).connection = c ∨
      ∃ context : Tls.Context, c.phase = .idle ∧ context.supports role = true ∧
        (c.initTransport now runtime stream role).connection =
          { c with
            channel := some ⟨context, .raw stream⟩
            timer := some (Timer.new now)
            runtime := some runtime
            role := some role
            phase := .ready } := by
  unfold initTransport
  split
  · exact Or.inl rfl
  · rename_i hidle
    split
    · exact Or.inl rfl
    · rename_i provider hprovider
      cases hctx : (provider.supply c.handle).filter fun context => context.supports role with
      | none => exact Or.inl rfl
      | some context =>
        obtain ⟨-, hsupports⟩ := Option.filter_eq_some_iff.mp hctx
        exact Or.inr ⟨context, Classical.not_not.mp hidle, hsupports, rfl⟩

/-! ## The start of a handshake -/

theorem start_of_not_ready (h : c.phase ≠ .ready) :
    c.start now = ⟨.error (.wrongPhase c.phase), c, []⟩ := by
  simp [start, h]

/-- The connection whose handshake has begun. -/
def racing (c : Connection) (now : Instant) (context : Tls.Context) : Connection :=
  { c with
    channel := some ⟨context, .handshaking⟩
    timer := some ⟨deadlineAfter now c.timeout, .armed⟩
    phase := .handshaking }

/-- On a ready connection the start always succeeds. -/
theorem start_of_ready (h : c.Shaped) (hready : c.phase = .ready) (now : Instant) :
    ∃ role context stream, c.role = some role ∧ c.channel = some ⟨context, .raw stream⟩ ∧
      context.supports role = true ∧
      (c.start now).result = .ok ⟨stream, (Channel.mk context (.raw stream)).side role⟩ ∧
      (c.start now).connection = c.racing now context := by
  obtain ⟨role, runtime, context, stream, deadline, hsupports, hrole, hruntime, hchannel, htimer,
    -⟩ := h.of_ready hready
  refine ⟨role, context, stream, hrole, hchannel, hsupports, ?_, ?_⟩
  -- All parts are there and the context serves the role: no branch of `start` can fail.
  all_goals
    simp [start, racing, hready, hrole, hruntime, hchannel, htimer, Channel.startHandshake,
      hsupports, Timer.expiresAfter]

theorem racing_shaped (h : c.Shaped) {context : Tls.Context} {stream : StreamId}
    (hready : c.phase = .ready) (hchannel : c.channel = some ⟨context, .raw stream⟩) :
    (c.racing now context).Shaped := by
  obtain ⟨role, runtime, _, _, _, hsupports, hrole, hruntime, hheld, -, habandoned⟩ :=
    h.of_ready hready
  cases Option.some.inj (hheld.symm.trans hchannel)
  simp only [Shaped, racing, hrole, hruntime, habandoned]
  exact .handshaking _ hsupports

/-- A start that succeeds finds the connection ready and leaves it handshaking. -/
theorem phase_of_start_ok (h : c.Shaped) {task : HandshakeTask}
    (hok : (c.start now).result = .ok task) :
    c.phase = .ready ∧ (c.start now).connection.phase = .handshaking := by
  by_cases hready : c.phase = .ready
  · obtain ⟨_, _, _, _, _, _, _, hracing⟩ := start_of_ready h hready now
    exact ⟨hready, by rw [hracing]; rfl⟩
  · rw [start_of_not_ready hready] at hok
    cases hok

/-- A start that fails changes nothing. -/
theorem start_error (h : c.Shaped) {e : ConnectionError}
    (herror : (c.start now).result = .error e) :
    c.phase ≠ .ready ∧ c.start now = ⟨.error (.wrongPhase c.phase), c, []⟩ := by
  by_cases hready : c.phase = .ready
  · obtain ⟨_, _, _, _, _, _, hok, _⟩ := start_of_ready h hready now
    rw [hok] at herror
    cases herror
  · exact ⟨hready, start_of_not_ready hready⟩

/-! ## The end of a handshake -/

/-- **The race.** A look at a handshake whose deadline is armed: the deadline wins if it has passed
and is looked at first or alone, and otherwise a task that has ended does. -/
theorem poll_of_armed {deadline : Instant} (htimer : c.timer = some ⟨deadline, .armed⟩)
    (task : HandshakeTask) (ended : Option TaskResult) (timerFirst : Bool) :
    c.poll task now ended timerFirst =
      if roundUp deadline ≤ now ∧ (timerFirst = true ∨ ended = none) then
        some (c.expire ⟨deadline, .expired⟩ task)
      else ended.map c.conclude := by
  unfold poll
  simp only [htimer, Timer.poll_armed]
  -- Only whether the deadline has passed matters, not how it is rounded.
  generalize roundUp deadline = due
  by_cases hdue : due ≤ now
  · cases timerFirst <;> cases ended <;> simp [hdue]
  · cases timerFirst <;> cases ended <;> simp [hdue]

/-- A race is undecided as long as the task runs and the deadline has not passed. -/
theorem poll_eq_none_iff {deadline : Instant} (htimer : c.timer = some ⟨deadline, .armed⟩)
    {task : HandshakeTask} {ended : Option TaskResult} {timerFirst : Bool} :
    c.poll task now ended timerFirst = none ↔ ended = none ∧ now < roundUp deadline := by
  rw [poll_of_armed htimer]
  cases ended with
  | none => simp
  | some result => split <;> simp

/-- A race is decided by the result of the task or by the deadline. -/
theorem poll_eq_some {deadline : Instant} (htimer : c.timer = some ⟨deadline, .armed⟩)
    {task : HandshakeTask} {ended : Option TaskResult} {timerFirst : Bool} {o : Outcome Unit}
    (h : c.poll task now ended timerFirst = some o) :
    (∃ result, ended = some result ∧ o = c.conclude result) ∨
      (roundUp deadline ≤ now ∧ o = c.expire ⟨deadline, .expired⟩ task) := by
  rw [poll_of_armed htimer] at h
  split at h
  · rename_i hdue
    exact Or.inr ⟨hdue.1, (Option.some.inj h).symm⟩
  · obtain ⟨result, hended, rfl⟩ := Option.map_eq_some_iff.mp h
    exact Or.inl ⟨result, hended, rfl⟩

/-- A look that finds something has found a missing timer, a result or a deadline. -/
theorem poll_cases {task : HandshakeTask} {ended : Option TaskResult} {timerFirst : Bool}
    {o : Outcome Unit} (h : c.poll task now ended timerFirst = some o) :
    o = ⟨.error (.wrongPhase c.phase), c, [.aborted task]⟩ ∨ (∃ result, o = c.conclude result) ∨
      ∃ timer, o = c.expire timer task := by
  have hfirst {a b : Option (Outcome Unit)} (hone : (a <|> b) = some o) :
      a = some o ∨ b = some o := by
    cases a with
    | none => exact Or.inr hone
    | some other => exact Or.inl hone
  unfold poll at h
  split at h
  · exact Or.inl (Option.some.inj h).symm
  · extract_lets expiry completion at h
    -- Which of the two is looked at first does not matter here.
    have heither : expiry = some o ∨ completion = some o := by
      split at h
      · exact hfirst h
      · exact (hfirst h).symm
    rcases heither with hexpired | hended
    · simp only [expiry] at hexpired
      split at hexpired
      · exact Or.inr (Or.inr ⟨_, (Option.some.inj hexpired).symm⟩)
      · cases hexpired
    · obtain ⟨result, -, rfl⟩ := Option.map_eq_some_iff.mp hended
      exact Or.inr (Or.inl ⟨result, rfl⟩)

/-- A task that has ended in time secures the connection or fails it. -/
theorem conclude_cases (c : Connection) (result : TaskResult) :
    (∃ stream, result = .secured stream ∧ (c.conclude result).result = .ok () ∧
      (c.conclude result).connection =
        { c with
          timer := c.timer.map fun t => t.cancel.2
          channel := c.channel.map fun channel => channel.establish stream
          phase := .established }) ∨
      ∃ e, outcomeOf result = .error e ∧ (c.conclude result).result = .error e ∧
        (c.conclude result).connection =
          { c with timer := c.timer.map fun t => t.cancel.2, phase := .failed } := by
  cases result with
  | secured stream => exact Or.inl ⟨stream, rfl, rfl, rfl⟩
  | fault fault => exact Or.inr ⟨.ofHandshake fault, rfl, rfl, rfl⟩
  | broken cause => exact Or.inr ⟨_, rfl, rfl, rfl⟩

theorem conclude_shaped (h : c.Shaped) (hphase : c.phase = .handshaking) (result : TaskResult) :
    (c.conclude result).connection.Shaped := by
  obtain ⟨role, runtime, context, deadline, hsupports, hrole, hruntime, hchannel, htimer,
    habandoned⟩ := h.of_handshaking hphase
  rcases conclude_cases c result with ⟨stream, -, -, heq⟩ | ⟨e, -, -, heq⟩
  · simp only [heq, Shaped, hrole, hruntime, hchannel, htimer, habandoned]
    exact .established stream deadline hsupports
  · simp only [heq, Shaped, hrole, hruntime, hchannel, htimer, habandoned]
    exact .failed deadline hsupports

theorem expire_shaped (h : c.Shaped) (hphase : c.phase = .handshaking) (deadline : Instant)
    (task : HandshakeTask) : (c.expire ⟨deadline, .expired⟩ task).connection.Shaped := by
  obtain ⟨role, runtime, context, _, hsupports, hrole, hruntime, hchannel, -, -⟩ :=
    h.of_handshaking hphase
  -- The timer and the abandoned handshake are new; all else is as it was.
  simp only [Shaped, expire, hrole, hruntime, hchannel]
  exact .timedOut deadline task hsupports

/-- A decided handshake leaves its phase for good. -/
theorem phase_of_poll (h : c.Shaped) (hphase : c.phase = .handshaking) {task : HandshakeTask}
    {ended : Option TaskResult} {timerFirst : Bool} {o : Outcome Unit}
    (hpoll : c.poll task now ended timerFirst = some o) :
    o.connection.phase = .established ∨ o.connection.phase = .failed ∨
      o.connection.phase = .timedOut := by
  obtain ⟨_, _, _, deadline, _, _, _, _, htimer, _⟩ := h.of_handshaking hphase
  rcases poll_eq_some htimer hpoll with ⟨result, -, rfl⟩ | ⟨-, rfl⟩
  · rcases conclude_cases c result with ⟨_, -, -, heq⟩ | ⟨_, -, -, heq⟩
    · exact Or.inl (by rw [heq])
    · exact Or.inr (Or.inl (by rw [heq]))
  · exact Or.inr (Or.inr rfl)

/-! ## Shutdown -/

/-- The connection without its stream. -/
def released (c : Connection) : Connection :=
  { c with
    abandoned := none
    timer := c.timer.map fun t => t.cancel.2
    channel := c.channel.map Channel.close }

/-- Only the secured stream of an established connection makes a shutdown wait. -/
theorem released_pending (h : c.Shaped) {stream : StreamId}
    (hpending : (releaseStream c.channel).1 = some stream) :
    c.phase = .established ∧ c.released.Shaped ∧
      ∃ context, c.released.channel = some ⟨context, .closed⟩ := by
  obtain ⟨handle, role, runtime, channel, timer, timeout, phase, abandoned, preparer, provider⟩ := c
  cases h with
  | established stream deadline hsupports =>
    exact ⟨rfl, .cutShort deadline hsupports, _, rfl⟩
  | _ => cases hpending

/-- A shutdown leaves neither a stream nor an abandoned handshake nor an armed timer. -/
theorem released_shutdown_shaped (h : c.Shaped) :
    { c.released with phase := .shutdown }.Shaped := by
  obtain ⟨handle, role, runtime, channel, timer, timeout, phase, abandoned, preparer, provider⟩ := c
  cases h with
  -- Where there is no channel, there is nothing to close.
  | idle => exact .unused
  | unused => exact .unused
  | ready _ _ hsupports | handshaking _ hsupports | established _ _ hsupports
  | cutShort _ hsupports | failed _ hsupports | timedOut _ _ hsupports
  | shutdown hsupports _ =>
    exact .shutdown hsupports (Timer.cancel_not_armed _)

/-- The rest of a shutdown that has taken the secured stream. -/
theorem cutShort_shutdown_shaped (h : c.Shaped) {context : Tls.Context}
    (hphase : c.phase = .established) (hclosed : c.channel = some ⟨context, .closed⟩) :
    { c with phase := .shutdown }.Shaped := by
  obtain ⟨handle, role, runtime, channel, timer, timeout, phase, abandoned, preparer, provider⟩ := c
  cases h with
  | cutShort deadline hsupports => exact .shutdown hsupports (by simp)
  | established => cases hclosed
  | _ => cases hphase

/-! ## Turns -/

/-- What a single operation can make of a connection. -/
inductive Turn (c : Connection) : Connection → Prop where
  | stay : Turn c c
  | set (s : Setting) : Turn c (s.put c).1
  | bind {role : Role} {context : Tls.Context} (now : Instant) (runtime : Runtime)
      (stream : StreamId) :
      c.phase = .idle → context.supports role = true →
      Turn c { c with
        channel := some ⟨context, .raw stream⟩
        timer := some (Timer.new now)
        runtime := some runtime
        role := some role
        phase := .ready }
  | begin {context : Tls.Context} {stream : StreamId} (now : Instant) :
      c.phase = .ready → c.channel = some ⟨context, .raw stream⟩ → Turn c (c.racing now context)
  | conclude (result : TaskResult) :
      c.phase = .handshaking → Turn c (c.conclude result).connection
  | expire (deadline : Instant) (task : HandshakeTask) :
      c.phase = .handshaking → Turn c (c.expire ⟨deadline, .expired⟩ task).connection
  /-- A shutdown has to wait for its farewell. -/
  | release {stream : StreamId} : (releaseStream c.channel).1 = some stream → Turn c c.released
  /-- A shutdown has nothing to wait for. -/
  | shut : Turn c { c.released with phase := .shutdown }
  /-- A shutdown has waited for its farewell. -/
  | farewell {context : Tls.Context} :
      c.phase = .established → c.channel = some ⟨context, .closed⟩ →
      Turn c { c with phase := .shutdown }

theorem Turn.shaped {c' : Connection} (h : c.Shaped) (turn : Turn c c') : c'.Shaped := by
  cases turn with
  | stay => exact h
  | set s => exact s.put_shaped c h
  | bind now runtime stream hidle hsupports =>
    obtain ⟨-, -, -, -, habandoned⟩ := h.of_idle hidle
    simp only [Shaped, habandoned]
    exact .ready stream now hsupports
  | begin now hready hchannel => exact racing_shaped h hready hchannel
  | conclude result hphase => exact conclude_shaped h hphase result
  | expire deadline task hphase => exact expire_shaped h hphase deadline task
  | release hpending => exact (released_pending h hpending).2.1
  | shut => exact released_shutdown_shaped h
  | farewell hphase hclosed => exact cutShort_shutdown_shaped h hphase hclosed

theorem initTransport_turn (c : Connection) (now : Instant) (runtime : Runtime)
    (stream : StreamId) (role : Role) :
    Turn c (c.initTransport now runtime stream role).connection := by
  rcases initTransport_connection c now runtime stream role with
    hsame | ⟨context, hidle, hsupports, hready⟩
  · rw [hsame]
    exact .stay
  · rw [hready]
    exact .bind now runtime stream hidle hsupports

theorem start_turn (h : c.Shaped) : Turn c (c.start now).connection := by
  by_cases hready : c.phase = .ready
  · obtain ⟨role, context, stream, -, hchannel, -, -, hracing⟩ := start_of_ready h hready now
    rw [hracing]
    exact .begin now hready hchannel
  · rw [start_of_not_ready hready]
    exact .stay

theorem poll_turn (h : c.Shaped) (hphase : c.phase = .handshaking) {task : HandshakeTask}
    {ended : Option TaskResult} {timerFirst : Bool} {o : Outcome Unit}
    (hpoll : c.poll task now ended timerFirst = some o) : Turn c o.connection := by
  obtain ⟨_, _, _, deadline, _, _, _, _, htimer, _⟩ := h.of_handshaking hphase
  rcases poll_eq_some htimer hpoll with ⟨result, -, rfl⟩ | ⟨-, rfl⟩
  · exact .conclude result hphase
  · exact .expire deadline task hphase

end Connection

end BoundedTls
