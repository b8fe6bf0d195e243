import BoundedTls.Proofs.Connection.Lifecycle

/-!
# The order of the phases

The phase of a connection is written in several places, by operations most of which may be called
in every phase. However they are ordered, a connection moves along the edges of its lifecycle and
never back, and the role and the TLS context that it was bound with stay what they are.

## Architecture

- **Edges**: the passages of the lifecycle, each with the move that makes it (`Phase.Edge`).
- **Rank**: every edge leads to a higher rank, so no phase is entered twice.
- **Turns**: an operation keeps role and context, or binds an idle connection
  (`Connection.Turn.identity`).
-/

namespace BoundedTls

/-! ## Edges -/

/-- The passages from one phase to the next, and the moves that make them. -/
inductive Phase.Edge : Move → Phase → Phase → Prop where
  | bind (runtime : Runtime) (stream : StreamId) (role : Role) :
      Edge (.initTransport runtime stream role) .idle .ready
  | begin (first : Bool) : Edge (.look first) .ready .handshaking
  | establish (timerFirst : Bool) : Edge (.look timerFirst) .handshaking .established
  | fail (timerFirst : Bool) : Edge (.look timerFirst) .handshaking .failed
  | expire (timerFirst : Bool) : Edge (.look timerFirst) .handshaking .timedOut
  | shut {p : Phase} : p ≠ .shutdown → Edge .shutdown p .shutdown
  /-- The shutdown of a secured connection ends with its farewell. -/
  | farewell (answer : Except Fault Unit) : Edge (.farewell answer) .established .shutdown

/-- How far a phase is from the start. -/
def Phase.rank : Phase → Nat
  | idle => 0
  | ready => 1
  | handshaking => 2
  | established | failed | timedOut => 3
  | shutdown => 4

theorem Phase.rank_le_shutdown (p : Phase) : p.rank ≤ Phase.shutdown.rank := by
  cases p <;> decide

theorem Phase.Edge.rank_lt {m : Move} {p q : Phase} (edge : Phase.Edge m p q) :
    p.rank < q.rank := by
  cases edge with
  | shut hp => cases p with
    | shutdown => exact absurd rfl hp
    | _ => decide
  | _ => decide

/-! ## Role and context -/

namespace Connection

variable {c c' : Connection}

theorem put_context (s : Setting) (c : Connection) : (s.put c).1.context = c.context := by
  simp [context]

/-- Nothing but binding an idle connection writes its role or its context. -/
theorem Turn.identity (turn : Turn c c') :
    c'.role = c.role ∧ c'.context = c.context ∨
      c.phase = .idle ∧ c'.phase = .ready ∧ c'.role.isSome ∧ c'.context.isSome := by
  cases turn with
  | stay | expire | farewell => exact Or.inl ⟨rfl, rfl⟩
  | set s => exact Or.inl ⟨s.put_role c, put_context s c⟩
  | bind _ _ _ hidle => exact Or.inr ⟨hidle, rfl, rfl, rfl⟩
  -- The stage of the channel changes, and its context stays.
  | begin _ _ hchannel => exact Or.inl ⟨rfl, by simp [context, racing, hchannel]⟩
  | conclude result =>
    rcases conclude_cases c result with ⟨stream, -, -, heq⟩ | ⟨e, -, -, heq⟩
    · rw [heq]
      exact Or.inl ⟨rfl, by simp [context, Function.comp_def, Channel.establish]⟩
    · rw [heq]
      exact Or.inl ⟨rfl, rfl⟩
  | release | shut =>
    exact Or.inl ⟨rfl, by simp [context, released, Function.comp_def, Channel.close]⟩

end Connection

namespace Life

variable {l l' : Life} {m : Move}

/-! ## Steps -/

/-- **Every step keeps the phase or takes an edge.** -/
theorem edge_step (h : l.Sound) (s : Step l m l') :
    l'.connection.phase = l.connection.phase ∨
      Phase.Edge m l.connection.phase l'.connection.phase := by
  cases s with
  | idle | pass | finish | call | forget | giveUp | release | leave | drop => exact Or.inl rfl
  | set s => exact Or.inl (s.put_phase l.connection)
  | initTransport runtime stream role =>
    rcases Connection.initTransport_connection l.connection l.now runtime stream role with
      hsame | ⟨context, hidle, -, hready⟩
    · exact Or.inl (by simp [Life.initTransport, hsame])
    · refine Or.inr ?_
      simp only [Life.initTransport, become_connection, hready, hidle]
      exact .bind runtime stream role
  | attempt first hactivity hok =>
    obtain ⟨hready, hhandshaking⟩ := Connection.phase_of_start_ok h.shaped hok
    refine Or.inr ?_
    simp only [Life.attempt, become_connection, hready, hhandshaking]
    exact .begin first
  | refuse first hactivity herror =>
    exact Or.inl (by simp [(Connection.start_error h.shaped herror).2])
  | resolve timerFirst hactivity hpoll =>
    have hphase := h.attempting _ hactivity
    refine Or.inr ?_
    rw [conclude_connection, hphase]
    rcases Connection.phase_of_poll h.shaped hphase hpoll with hend | hend | hend
    · rw [hend]
      exact .establish timerFirst
    · rw [hend]
      exact .fail timerFirst
    · rw [hend]
      exact .expire timerFirst
  | shut =>
    -- A connection that was shut down before can be shut down again.
    by_cases hshutdown : l.connection.phase = .shutdown
    · exact Or.inl hshutdown.symm
    · exact Or.inr (.shut hshutdown)
  | farewell answer hactivity =>
    refine Or.inr ?_
    rw [(h.closing _ hactivity).1]
    exact .farewell answer

/-- A step leaves the phase or goes up in rank. -/
theorem rank_step (h : l.Sound) (s : Step l m l') :
    l'.connection.phase = l.connection.phase ∨
      l.connection.phase.rank < l'.connection.phase.rank :=
  (edge_step h s).imp_right Phase.Edge.rank_lt

/-- What one more move can do to the phase, the role and the context of a connection. -/
structure Orderly (l : Life) (m : Move) : Prop where
  edge : (l.step m).connection.phase = l.connection.phase ∨
    Phase.Edge m l.connection.phase (l.step m).connection.phase
  /-- Role and context are written as the connection becomes ready. -/
  written : l.connection.phase = .idle → (l.step m).connection.phase = .ready →
    l.connection.role = none ∧ l.connection.context = none ∧
      (l.step m).connection.role.isSome ∧ (l.step m).connection.context.isSome
  kept : ¬ (l.connection.phase = .idle ∧ (l.step m).connection.phase = .ready) →
    (l.step m).connection.role = l.connection.role ∧
      (l.step m).connection.context = l.connection.context

theorem Sound.orderly (h : l.Sound) (m : Move) : l.Orderly m where
  edge := edge_step h (step_is_step l m)
  written := by
    intro hidle hready
    obtain ⟨hrole, -, hchannel, -, -⟩ := h.shaped.of_idle hidle
    refine ⟨hrole, by simp [Connection.context, hchannel], ?_⟩
    -- A ready connection has a role and a context, wherever they come from.
    obtain ⟨_, _, _, _, _, -, hrole', -, hchannel', -, -⟩ :=
      (sound_step h (step_is_step l m)).shaped.of_ready hready
    simp [Connection.context, hrole', hchannel']
  kept := by
    intro hother
    rcases (step_turn h (step_is_step l m)).identity with hsame | ⟨hidle, hready, -, -⟩
    · exact hsame
    · exact absurd ⟨hidle, hready⟩ hother

/-! ## Runs -/

theorem sound_of_run (h : l.Sound) (moves : List Move) : (l.run moves).Sound :=
  run_induction moves h fun _ _ _ _ s h => sound_step h s

/-- Over a run the phase stays or goes up in rank. -/
theorem rank_run (h : l.Sound) (moves : List Move) :
    (l.run moves).connection.phase = l.connection.phase ∨
      l.connection.phase.rank < (l.run moves).connection.phase.rank := by
  have hkept : (l.run moves).Sound ∧ ((l.run moves).connection.phase = l.connection.phase ∨
      l.connection.phase.rank < (l.run moves).connection.phase.rank) := by
    refine run_induction (P := fun l' => l'.Sound ∧ (l'.connection.phase = l.connection.phase ∨
      l.connection.phase.rank < l'.connection.phase.rank)) moves ⟨h, Or.inl rfl⟩ ?_
    rintro here next m - s ⟨hsound, hrank⟩
    refine ⟨sound_step hsound s, ?_⟩
    rcases rank_step hsound s with hsame | hup
    · rw [hsame]
      exact hrank
    · rcases hrank with hstart | hhigher
      · exact Or.inr (hstart ▸ hup)
      · exact Or.inr (Nat.lt_trans hhigher hup)
  exact hkept.2

/-- A phase that was left is not entered again. -/
theorem not_reentered (h : l.Sound) {first : List Move}
    (hleft : (l.run first).connection.phase ≠ l.connection.phase) (later : List Move) :
    ((l.run first).run later).connection.phase ≠ l.connection.phase := by
  have hup : l.connection.phase.rank < (l.run first).connection.phase.rank :=
    (rank_run h first).resolve_left hleft
  intro hback
  rcases rank_run (sound_of_run h first) later with hsame | hhigher
  · exact hleft (hsame ▸ hback)
  · rw [hback] at hhigher
    exact Nat.lt_asymm hup hhigher

/-- A connection that is not idle keeps its role and its context, those it has and those it has
not. -/
theorem identity_run (h : l.Sound) (hphase : l.connection.phase ≠ .idle) (later : List Move) :
    (l.run later).connection.role = l.connection.role ∧
      (l.run later).connection.context = l.connection.context := by
  have hkept : (l.run later).Sound ∧ (l.run later).connection.phase ≠ .idle ∧
      (l.run later).connection.role = l.connection.role ∧
      (l.run later).connection.context = l.connection.context := by
    refine run_induction (P := fun l' => l'.Sound ∧ l'.connection.phase ≠ .idle ∧
      l'.connection.role = l.connection.role ∧ l'.connection.context = l.connection.context)
      later ⟨h, hphase, rfl, rfl⟩ ?_
    rintro here next m - s ⟨hsound, hphase, hrole, hcontext⟩
    refine ⟨sound_step hsound s, ?_, ?_⟩
    · rcases rank_step hsound s with hsame | hup
      · rw [hsame]
        exact hphase
      · intro hidle
        rw [hidle] at hup
        exact Nat.not_lt_zero _ hup
    · rcases (step_turn hsound s).identity with ⟨hrole', hcontext'⟩ | ⟨hidle, -, -, -⟩
      · exact ⟨hrole'.trans hrole, hcontext'.trans hcontext⟩
      · exact absurd hidle hphase
  exact hkept.2.2

/-! ## Every life -/

/-- **The phases keep their order.** However the operations on a connection are ordered, and
wherever a call or a shutdown is dropped, each change of the phase takes an edge of the lifecycle
and no phase that was left is entered again. An idle connection has neither role nor context; both
are written as it becomes ready, by no other move, and are the same in every later state. -/
theorem phases_keep_order (handle : Handle) (now : Time.Instant) (moves : List Move) :
    let l := (new handle now).run moves
    (∀ m, l.Orderly m) ∧
      (∀ first later, (l.run first).connection.phase ≠ l.connection.phase →
        ((l.run first).run later).connection.phase ≠ l.connection.phase) ∧
      (∀ later, l.connection.phase ≠ .idle →
        (l.run later).connection.role = l.connection.role ∧
          (l.run later).connection.context = l.connection.context) := by
  intro l
  have hsound : l.Sound := sound_run handle now moves
  exact ⟨hsound.orderly, fun first later hleft => not_reentered hsound hleft later,
    fun later hphase => identity_run hsound hphase later⟩

end Life

end BoundedTls
