import BoundedTls.Proofs.Connection.Lifecycle

/-!
# The phase determines the parts

State, socket stage, timer and abandoned handshake are stored apart and changed by different
operations, with a wait in the middle of a handshake that may never end. Whenever the owner of a
connection is in the middle of nothing, they agree: the phase tells what every part holds.

A shutdown that is dropped before its farewell is over is the one way to break the agreement; the
main statement is about lives in which every shutdown runs to its end.
-/

namespace BoundedTls

open BoundedTls.Time

/-! ## What the phase says -/

namespace Connection

variable {c c' : Connection}

/-- What the phase of a connection says about everything else. -/
def Tidy (c : Connection) : Prop :=
  match c.phase with
  | .idle => c.role = none ∧ c.context = none ∧ c.channel = none ∧ c.timer = none
  | .ready =>
    c.rawStream.isSome ∧ c.securedStream = none ∧ c.timerState = some .idle ∧ c.role.isSome
  | .handshaking =>
    c.rawStream = none ∧ c.securedStream = none ∧ c.timerState = some .armed
  | .established =>
    ∃ stream, c.rawStream = some stream ∧ c.securedStream = some stream ∧
      c.timerState = some .cancelled
  | .failed => c.rawStream = none ∧ c.securedStream = none ∧ c.timerState = some .cancelled
  | .timedOut => c.rawStream = none ∧ c.securedStream = none ∧ c.timerState = some .expired
  | .shutdown => c.rawStream = none ∧ c.securedStream = none ∧ c.timerState ≠ some .armed

/-- No shutdown has taken the stream of an established connection. -/
def Whole (c : Connection) : Prop :=
  ∀ context, c.channel = some ⟨context, .closed⟩ → c.phase = .shutdown

theorem Shaped.tidy (h : c.Shaped) (hwhole : c.Whole) : c.Tidy := by
  obtain ⟨handle, role, runtime, channel, timer, timeout, phase, abandoned, preparer, provider⟩ := c
  cases h with
  | idle => exact ⟨rfl, rfl, rfl, rfl⟩
  | ready => exact ⟨rfl, rfl, rfl, rfl⟩
  | handshaking => exact ⟨rfl, rfl, rfl⟩
  | established stream => exact ⟨stream, rfl, rfl, rfl⟩
  | cutShort => cases hwhole _ rfl
  | failed => exact ⟨rfl, rfl, rfl⟩
  | timedOut => exact ⟨rfl, rfl, rfl⟩
  | unused => exact ⟨rfl, rfl, by simp [timerState]⟩
  | shutdown _ harmed => exact ⟨rfl, rfl, by simpa [timerState] using harmed⟩

theorem Shaped.abandoned_iff (h : c.Shaped) : c.abandoned.isSome ↔ c.phase = .timedOut := by
  obtain ⟨handle, role, runtime, channel, timer, timeout, phase, abandoned, preparer, provider⟩ := c
  cases h <;> simp

/-- Role, context, channel and timer are there together or not at all. -/
theorem Shaped.channel_eq_none (h : c.Shaped)
    (habsent : c.role = none ∨ c.context = none ∨ c.channel = none ∨ c.timer = none) :
    c.channel = none := by
  obtain ⟨handle, role, runtime, channel, timer, timeout, phase, abandoned, preparer, provider⟩ := c
  cases h with
  | idle | unused => rfl
  | _ => simp [context] at habsent

/-- Without a channel a connection has no other part, and is idle or shut down. -/
theorem Shaped.of_no_channel (h : c.Shaped) (hnone : c.channel = none) :
    c.role = none ∧ c.context = none ∧ c.timer = none ∧
      (c.phase = .idle ∨ c.phase = .shutdown) := by
  obtain ⟨handle, role, runtime, channel, timer, timeout, phase, abandoned, preparer, provider⟩ := c
  cases h with
  | idle => exact ⟨rfl, rfl, rfl, Or.inl rfl⟩
  | unused => exact ⟨rfl, rfl, rfl, Or.inr rfl⟩
  | _ => cases hnone

theorem put_whole (hwhole : c.Whole) (s : Setting) : (s.put c).1.Whole := by
  simpa [Whole] using hwhole

theorem initTransport_whole (hwhole : c.Whole) (now : Instant) (runtime : Runtime)
    (stream : StreamId) (role : Role) :
    (c.initTransport now runtime stream role).connection.Whole := by
  rcases initTransport_connection c now runtime stream role with hsame | ⟨context, -, -, hready⟩
  · rw [hsame]
    exact hwhole
  · rw [hready]
    intro _ hclosed
    cases hclosed

theorem start_whole (h : c.Shaped) (hwhole : c.Whole) (now : Instant) :
    (c.start now).connection.Whole := by
  by_cases hready : c.phase = .ready
  · obtain ⟨_, context, _, _, _, _, _, hracing⟩ := start_of_ready h hready now
    rw [hracing]
    intro _ hclosed
    cases hclosed
  · rw [start_of_not_ready hready]
    exact hwhole

/-- A handshake that is decided gives its stream back secured or not at all. -/
theorem poll_whole (h : c.Shaped) (hphase : c.phase = .handshaking) {now : Instant}
    {task : HandshakeTask} {ended : Option TaskResult} {timerFirst : Bool} {o : Outcome Unit}
    (hpoll : c.poll task now ended timerFirst = some o) : o.connection.Whole := by
  obtain ⟨_, _, _, deadline, _, _, _, hchannel, htimer, _⟩ := h.of_handshaking hphase
  intro context hclosed
  rcases poll_eq_some htimer hpoll with ⟨result, -, rfl⟩ | ⟨-, rfl⟩
  · rcases conclude_cases c result with ⟨_, -, -, heq⟩ | ⟨_, -, -, heq⟩
    · rw [heq, hchannel] at hclosed
      cases hclosed
    · rw [heq, hchannel] at hclosed
      cases hclosed
  · simp only [expire, hchannel] at hclosed
    cases hclosed

/-- A channel is never lost. -/
theorem Turn.channel_ne_none (turn : Turn c c') (h : c.channel ≠ none) : c'.channel ≠ none := by
  cases turn with
  | stay | expire | farewell => exact h
  | set s => simpa using h
  | bind | begin => simp [racing]
  | conclude result =>
    rcases conclude_cases c result with ⟨_, -, -, heq⟩ | ⟨_, -, -, heq⟩
    · simpa [heq] using h
    · simpa [heq] using h
  | release | shut => simpa [released] using h

/-! ## The way to the current phase -/

/-- The path of a connection without parts is short, and any other leads through `ready`. -/
structure Charted (c : Connection) (path : List Phase) : Prop where
  unbound : c.channel = none →
    c.phase = .idle ∧ path = [.idle] ∨ c.phase = .shutdown ∧ path = [.idle, .shutdown]
  bound : c.channel ≠ none → .ready ∈ path

/-- Once bound, a connection stays bound, and its path keeps what it has. -/
theorem Charted.of_bound {path later : List Phase} (h : Charted c path) (turn : Turn c c')
    (hbound : c.channel ≠ none) : Charted c' (path ++ later) where
  unbound := fun hnone => absurd hnone (turn.channel_ne_none hbound)
  bound := fun _ => List.mem_append_left _ (h.bound hbound)

theorem Turn.charted {path : List Phase} (turn : Turn c c') (h : Charted c path) :
    Charted c' (if c'.phase = c.phase then path else path ++ [c'.phase]) := by
  by_cases hnone : c.channel = none
  · -- A connection without a channel can be bound or shut down, and nothing else moves it.
    have hunbound := h.unbound hnone
    cases turn with
    | stay => simpa using h
    | set s =>
      simp only [Setting.put_phase, if_true]
      exact ⟨fun _ => by simpa using hunbound, fun hbound => by simp [hnone] at hbound⟩
    | bind _ _ _ hidle => exact ⟨fun hbound => (by cases hbound), fun _ => by simp [hidle]⟩
    | begin _ _ hchannel | farewell _ hchannel => simp [hnone] at hchannel
    | conclude _ hphase | expire _ _ hphase => simp [hphase] at hunbound
    | release hpending => simp [releaseStream, hnone] at hpending
    | shut =>
      refine ⟨fun _ => Or.inr ⟨rfl, ?_⟩, fun hbound => by simp [released, hnone] at hbound⟩
      rcases hunbound with ⟨hphase, rfl⟩ | ⟨hphase, rfl⟩
      · simp [hphase]
      · simp [hphase]
  · split
    · have hkept : Charted c' (path ++ []) := h.of_bound turn hnone
      simpa using hkept
    · exact h.of_bound turn hnone

end Connection

namespace Life

variable {l l' : Life} {m : Move}

/-! ## Shutdowns that run to their end -/

/-- A stream is taken only by a shutdown that is over or still waits. -/
def Uncut (l : Life) : Prop :=
  l.connection.Whole ∨ ∃ stream, l.activity = .closing stream

theorem Uncut.whole (h : l.Uncut) (hactivity : ∀ stream, l.activity ≠ .closing stream) :
    l.connection.Whole := by
  rcases h with hwhole | ⟨stream, hclosing⟩
  · exact hwhole
  · exact absurd hclosing (hactivity stream)

theorem uncut_step (h : l.Sound) (s : Step l m l') (hm : m ≠ .leave) (huncut : l.Uncut) :
    l'.Uncut := by
  cases s with
  | idle | pass | finish => exact huncut
  | set s hactivity =>
    exact Or.inl (Connection.put_whole (huncut.whole (by simp [hactivity])) s)
  | initTransport runtime stream role hactivity =>
    exact Or.inl (Connection.initTransport_whole (huncut.whole (by simp [hactivity])) _ _ _ _)
  | attempt first hactivity | refuse first hactivity =>
    exact Or.inl (Connection.start_whole h.shaped (huncut.whole (by simp [hactivity])) _)
  | resolve timerFirst hactivity hpoll =>
    exact Or.inl (Connection.poll_whole h.shaped (h.attempting _ hactivity) hpoll)
  | call _ hactivity | forget hactivity | giveUp hactivity | drop hactivity =>
    exact Or.inl (huncut.whole (by simp [hactivity]))
  -- The stream is taken here, and the phase follows when the farewell is over.
  | release => exact Or.inr ⟨_, rfl⟩
  | shut | farewell => exact Or.inl fun _ _ => rfl
  | leave => exact absurd rfl hm

/-! ## Handshakes that were given up -/

/-- A handshake that is under way is waited for, or its call was dropped. -/
def Attended (l : Life) : Prop :=
  l.connection.phase = .handshaking →
    (∃ a, l.activity = .attempting a ∧ .began a.call ∈ l.trace) ∨
      ∃ call, .began call ∈ l.trace ∧ .dropped call ∈ l.trace

/-- A handshake that nobody waits for belongs to a dropped call. -/
theorem Attended.given_up (h : l.Attended) (hphase : l.connection.phase = .handshaking)
    (hactivity : ∀ a, l.activity ≠ .attempting a) :
    ∃ call, .began call ∈ l.trace ∧ .dropped call ∈ l.trace := by
  rcases h hphase with ⟨a, hattempting, -⟩ | hdropped
  · exact absurd hattempting (hactivity a)
  · exact hdropped

theorem attended_step (h : l.Sound) (s : Step l m l') (hattended : l.Attended) : l'.Attended := by
  intro hphase
  -- A handshake whose call was dropped stays so.
  have hlater (hold : ∃ call, .began call ∈ l.trace ∧ .dropped call ∈ l.trace) :
      ∃ call, .began call ∈ l'.trace ∧ .dropped call ∈ l'.trace := by
    obtain ⟨call, hbegan, hdropped⟩ := hold
    exact ⟨call, mem_trace_step s hbegan, mem_trace_step s hdropped⟩
  cases s with
  | idle | pass | finish => exact hattended hphase
  | attempt first hactivity hok => exact Or.inl ⟨_, rfl, by simp [attempt]⟩
  -- A race that is decided is not under way any more.
  | resolve timerFirst hactivity hpoll =>
    have hdecided := Connection.phase_of_poll h.shaped (h.attempting _ hactivity) hpoll
    simp only [conclude_connection] at hphase
    simp [hphase] at hdecided
  | @giveUp waiting hactivity =>
    rcases hattended hphase with ⟨a, hattempting, hbegan⟩ | hdropped
    · -- The call that is dropped is the one that waits.
      have hsame : a = waiting := by simpa [hactivity] using hattempting.symm
      rw [hsame] at hbegan
      have hdropped : .dropped waiting.call ∈ (l.giveUp waiting).trace :=
        List.mem_append_right _ (by simp [Report.seen, Report.cancelled])
      exact Or.inr ⟨waiting.call, List.mem_append_left _ hbegan, hdropped⟩
    · exact Or.inr (hlater hdropped)
  | set s hactivity =>
    have hbefore : l.connection.phase = .handshaking := by simpa [set] using hphase
    exact Or.inr (hlater (hattended.given_up hbefore (by simp [hactivity])))
  | initTransport runtime stream role hactivity =>
    simp only [initTransport, become_connection] at hphase
    obtain hsame | ⟨_, -, -, hready⟩ :=
      Connection.initTransport_connection l.connection l.now runtime stream role
    · rw [hsame] at hphase
      exact Or.inr (hlater (hattended.given_up hphase (by simp [hactivity])))
    · rw [hready] at hphase
      cases hphase
  | refuse first hactivity herror =>
    rw [conclude_connection, (Connection.start_error h.shaped herror).2] at hphase
    exact Or.inr (hlater (hattended.given_up hphase (by simp [hactivity])))
  | call _ hactivity | forget hactivity | release hactivity | leave hactivity | drop hactivity =>
    exact Or.inr (hlater (hattended.given_up hphase (by simp [hactivity])))
  | shut | farewell => cases hphase

/-! ## Every life -/

theorem charted_step {l l' : Life} {m : Move} (h : l.Sound) (s : Step l m l')
    (hcharted : Connection.Charted l.connection l.path) :
    Connection.Charted l'.connection l'.path := by
  rw [path_step s]
  exact (step_turn h s).charted hcharted

/-- State, socket, timer and abandoned handshake of a connection agree, and its missing parts and
its unfinished handshake have a history that explains them. -/
structure Consistent (l : Life) : Prop where
  tidy : l.connection.Tidy
  abandoned : l.connection.abandoned.isSome ↔ l.connection.phase = .timedOut
  /-- One part is missing only where all are: before the connection is bound, or after a shutdown
  that came before. -/
  absent :
    l.connection.role = none ∨ l.connection.context = none ∨ l.connection.channel = none ∨
      l.connection.timer = none →
    l.connection.phase = .idle ∨ l.connection.phase = .shutdown ∧ l.path = [.idle, .shutdown]
  /-- A shutdown straight from the start leaves a connection without parts. -/
  unused : l.path = [.idle, .shutdown] →
    l.connection.role = none ∧ l.connection.context = none ∧ l.connection.channel = none ∧
      l.connection.timer = none
  /-- A handshake stays unfinished only after its call was dropped. -/
  dropped : l.connection.phase = .handshaking →
    ∃ call, .began call ∈ l.trace ∧ .dropped call ∈ l.trace

theorem consistent_of_resting (h : l.Sound) (huncut : l.Uncut)
    (hcharted : Connection.Charted l.connection l.path) (hattended : l.Attended)
    (hresting : l.activity = .resting) : l.Consistent where
  tidy := h.shaped.tidy (huncut.whole (by simp [hresting]))
  abandoned := h.shaped.abandoned_iff
  absent := by
    intro habsent
    have hnone : l.connection.channel = none := h.shaped.channel_eq_none habsent
    rcases hcharted.unbound hnone with ⟨hidle, -⟩ | hshutdown
    · exact Or.inl hidle
    · exact Or.inr hshutdown
  unused := by
    intro hpath
    -- A connection that was ever bound has `ready` on its path.
    have hnone : l.connection.channel = none := by
      refine Classical.byContradiction fun hbound => ?_
      have hready : .ready ∈ l.path := hcharted.bound hbound
      simp [hpath] at hready
    obtain ⟨hrole, hcontext, htimer, -⟩ := h.shaped.of_no_channel hnone
    exact ⟨hrole, hcontext, hnone, htimer⟩
  dropped := fun hphase => hattended.given_up hphase (by simp [hresting])

/-- **The phase determines the parts.** However the operations on a new connection are ordered,
whatever its handlers answer, however its handshake ends and wherever a call for it is dropped:
as long as every shutdown runs to its end, the connection is consistent whenever its owner is in
the middle of nothing. -/
theorem phase_determines_parts (handle : Handle) (now : Instant) (moves : List Move)
    (hfinished : ∀ m ∈ moves, m ≠ .leave)
    (hresting : ((new handle now).run moves).activity = .resting) :
    ((new handle now).run moves).Consistent := by
  have hkept : ((new handle now).run moves).Sound ∧ ((new handle now).run moves).Uncut ∧
      Connection.Charted ((new handle now).run moves).connection ((new handle now).run moves).path ∧
      ((new handle now).run moves).Attended := by
    refine run_induction
      (P := fun l => l.Sound ∧ l.Uncut ∧ Connection.Charted l.connection l.path ∧ l.Attended)
      moves ⟨new_sound handle now, Or.inl ?_, ⟨fun _ => Or.inl ⟨rfl, rfl⟩, ?_⟩, ?_⟩ ?_
    · intro context hclosed
      cases hclosed
    · intro hbound
      exact absurd rfl hbound
    · intro hphase
      cases hphase
    · rintro l l' m hm s ⟨hsound, huncut, hcharted, hattended⟩
      exact ⟨sound_step hsound s, uncut_step hsound s (hfinished m hm) huncut,
        charted_step hsound s hcharted, attended_step hsound s hattended⟩
  obtain ⟨hsound, huncut, hcharted, hattended⟩ := hkept
  exact consistent_of_resting hsound huncut hcharted hattended hresting

/-- A handshake whose call was dropped, and a second call that is refused. -/
theorem phase_determines_parts_of_dropped_call :
    let moves :=
      bindingMoves ++ [.call .callback, .look false, .giveUp, .call .returned, .look true]
    let l := (new ⟨1⟩ 0).run moves
    (∀ m ∈ moves, m ≠ .leave) ∧ l.activity = .resting ∧ l.connection.phase = .handshaking ∧
      l.Consistent := by
  have hfinished : ∀ m ∈ bindingMoves ++
      [.call .callback, .look false, .giveUp, .call .returned, .look true], m ≠ .leave := by
    simp [bindingMoves]
  exact ⟨hfinished, rfl, rfl, phase_determines_parts ⟨1⟩ 0 _ hfinished rfl⟩

end Life

end BoundedTls
