import BoundedTls.Proofs.Connection.Lifecycle

/-!
# The race between a handshake and its deadline

A handshake task and a deadline run against each other. The clock moves, the task ends and the
call is looked at in any order, and where a look finds the task ended and the deadline passed,
either may be taken. What the call reports, the phase, the timer and the stream are set in
different places; they agree on one winner.

## Architecture

- **Incidents**: what can happen while a call waits, and after it (`Incident`).
- **Verdicts**: the ways a race can end, one rule for each (`Race.Verdict`). A rule ties the
  outcome to the state of the connection and to what was known when the call was looked at.
- **Pending and decided**: an incident leaves the race as it is or decides it by a verdict, and
  nothing that happens later touches a decided race.
-/

namespace BoundedTls

open BoundedTls.Time

/-! ## Incidents -/

/-- What can happen while a call waits for the outcome of its handshake. -/
inductive Incident where
  | pass (nanos : Nat)
  | finish (result : TaskResult)
  | look (timerFirst : Bool)
deriving DecidableEq, Repr

def Incident.move : Incident → Move
  | pass nanos => .pass nanos
  | finish result => .finish result
  | look timerFirst => .look timerFirst

def Life.happen (l : Life) (incidents : List Incident) : Life :=
  l.run (incidents.map Incident.move)

@[simp] theorem Life.happen_nil (l : Life) : l.happen [] = l := rfl

@[simp] theorem Life.happen_cons (l : Life) (i : Incident) (incidents : List Incident) :
    l.happen (i :: incidents) = (l.step i.move).happen incidents := rfl

/-! ## Verdicts -/

/-- A handshake that has begun: the call that waits for it, when it began and how long it may
take. -/
structure Race where
  attempt : Attempt
  start : Instant
  timeout : Duration

namespace Race

/-- The ways a race can end: the outcome, with the connection that it leaves and what was known
when the call was looked at. -/
inductive Verdict (r : Race) (here : Life) (c : Connection) :
    Except ConnectionError Unit → Prop where
  | secured :
      here.ended = some (.secured r.attempt.task.stream) →
      c.phase = .established → c.timerState = some .cancelled →
      c.securedStream = some r.attempt.task.stream →
      Verdict r here c (.ok ())
  /-- The engine has rejected the handshake. -/
  | rejected (fault : Fault) :
      here.ended = some (.fault fault) → fault.engineFailure?.isSome = true →
      c.phase = .failed → c.timerState = some .cancelled → c.securedStream = none →
      Verdict r here c (.error (.rejected fault))
  /-- The transport has failed. -/
  | passed (fault : Fault) :
      here.ended = some (.fault fault) → fault.engineFailure? = none →
      c.phase = .failed → c.timerState = some .cancelled → c.securedStream = none →
      Verdict r here c (.error (.transport fault))
  /-- The task has broken down. -/
  | broken (cause : Cause) :
      here.ended = some (.broken cause) →
      c.phase = .failed → c.timerState = some .cancelled → c.securedStream = none →
      Verdict r here c (.error (.transport (.custom .other cause)))
  | timedOut :
      r.start + allowance r.start r.timeout ≤ here.now →
      c.phase = .timedOut → c.timerState = some .expired → c.securedStream = none →
      Verdict r here c (.error (.timeout r.timeout))

/-- The connection while its handshake runs: the deadline is armed and the stream is away. -/
structure Running (r : Race) (c : Connection) : Prop where
  timer : c.timer = some ⟨deadlineAfter r.start r.timeout, .armed⟩
  channel : ∃ context, c.channel = some ⟨context, .handshaking⟩
  timeout : c.timeout = r.timeout

variable {r : Race} {c : Connection}

/-- A task that has ended in time decides by its own result. -/
theorem verdict_of_conclude (h : r.Running c) {here : Life} {result : TaskResult}
    (hended : here.ended = some result) (hown : result.isOf r.attempt.task = true) :
    r.Verdict here (c.conclude result).connection (c.conclude result).result := by
  obtain ⟨context, hchannel⟩ := h.channel
  rcases Connection.conclude_cases c result with
    ⟨stream, rfl, hok, heq⟩ | ⟨e, houtcome, herror, heq⟩
  · -- The secured stream is the one that the task was given.
    have hstream : stream = r.attempt.task.stream := by simpa [TaskResult.isOf] using hown
    subst hstream
    rw [hok, heq]
    refine .secured hended rfl ?_ ?_
    · simp [Connection.timerState, h.timer, Timer.cancel]
    · simp [Connection.securedStream, hchannel, Channel.establish, Channel.secure?]
  · -- Timer, stream and phase do not depend on what went wrong; only the outcome does.
    have htimer : (c.conclude result).connection.timerState = some .cancelled := by
      simp [heq, Connection.timerState, h.timer, Timer.cancel]
    have hsecured : (c.conclude result).connection.securedStream = none := by
      simp [heq, Connection.securedStream, hchannel, Channel.secure?]
    have hphase : (c.conclude result).connection.phase = .failed := by rw [heq]
    rw [herror]
    cases result with
    | secured stream => cases houtcome
    | fault fault =>
      cases houtcome
      unfold ConnectionError.ofHandshake
      split
      · rename_i hengine
        exact .rejected fault hended hengine hphase htimer hsecured
      · rename_i hengine
        exact .passed fault hended (by simpa using hengine) hphase htimer hsecured
    | broken cause =>
      cases houtcome
      exact .broken cause hended hphase htimer hsecured

/-- A deadline that wins has passed. -/
theorem verdict_of_expire (h : r.Running c) {here : Life} {deadline : Instant}
    (hdue : roundUp (deadlineAfter r.start r.timeout) ≤ here.now) :
    r.Verdict here (c.expire ⟨deadline, .expired⟩ r.attempt.task).connection
      (c.expire ⟨deadline, .expired⟩ r.attempt.task).result := by
  obtain ⟨context, hchannel⟩ := h.channel
  have hpassed : r.start + allowance r.start r.timeout ≤ here.now := by
    rw [← deadlineAfter_eq]
    exact Nat.le_trans (le_roundUp _) hdue
  have hresult : (c.expire ⟨deadline, .expired⟩ r.attempt.task).result =
      .error (.timeout r.timeout) := by
    rw [← h.timeout]
    rfl
  rw [hresult]
  refine .timedOut hpassed rfl rfl ?_
  simp [Connection.expire, Connection.securedStream, hchannel, Channel.secure?]

/-! ## Pending and decided -/

/-- The call waits, and nothing of the connection has changed since the handshake began. -/
structure Pending (r : Race) (began l : Life) : Prop where
  activity : l.activity = .attempting r.attempt
  connection : l.connection = began.connection
  trace : l.trace = began.trace
  own : ∀ result, l.ended = some result → result.isOf r.attempt.task = true

/-- Nothing decides the race at a look: the task runs, and its deadline has not passed. -/
def Undecided (r : Race) (l : Life) : Prop :=
  l.ended = none ∧ l.now < roundUp (deadlineAfter r.start r.timeout)

/-- The race was decided by a look `here`. The outcome was reported once, and neither it nor the
connection has changed since. -/
structure Decided (r : Race) (began here : Life) (timerFirst : Bool) (l : Life) : Prop where
  pending : r.Pending began here
  decisive : ¬ r.Undecided here
  activity : l.activity = .resting
  connection : l.connection = (here.step (.look timerFirst)).connection
  outcome : ∃ outcome event, r.Verdict here l.connection outcome ∧
    l.trace = began.trace ++
      .effect (.log event) :: (Report.resolved r.attempt.delivery outcome).seen r.attempt.call

/-- From `l` on, the incidents leave the race pending, with no look that could have decided it; or
the first look that can decide it does, and the rest of them changes nothing. -/
def OneWinner (r : Race) (began l : Life) (incidents : List Incident) : Prop :=
  (r.Pending began (l.happen incidents) ∧
    ∀ before timerFirst after, incidents = before ++ .look timerFirst :: after →
      r.Undecided (l.happen before)) ∨
  ∃ before timerFirst after, incidents = before ++ .look timerFirst :: after ∧
    r.Decided began (l.happen before) timerFirst (l.happen incidents)

variable {began l : Life}

/-- A pending call that is not looked at goes on waiting while the clock moves. -/
theorem Pending.pass (h : r.Pending began l) (nanos : Nat) :
    r.Pending began (l.step (.pass nanos)) := by
  rw [Life.step_pass]
  exact ⟨h.activity, h.connection, h.trace, h.own⟩

/-- The end of the task is not noticed before the call is looked at. -/
theorem Pending.finish (h : r.Pending began l) (result : TaskResult) :
    r.Pending began (l.step (.finish result)) := by
  rw [Life.step_of_finish]
  rcases l.finish_cases result with heq | ⟨task, htask, -, hof, heq⟩
  · rw [heq]
    exact h
  · rw [heq]
    refine ⟨h.activity, h.connection, h.trace, ?_⟩
    -- The task that is alive is the one that the call waits for.
    have hsame : task = r.attempt.task := by simpa [Life.task?, h.activity] using htask.symm
    rintro other hother
    cases hother
    exact hsame ▸ hof

theorem conclude_effects (c : Connection) (result : TaskResult) :
    ∃ event, (c.conclude result).effects = [.log event] := by
  rcases Connection.conclude_cases c result with ⟨_, rfl, -, -⟩ | ⟨_, houtcome, -, -⟩
  · exact ⟨_, rfl⟩
  · cases result with
    | secured stream => cases houtcome
    | fault fault => exact ⟨_, rfl⟩
    | broken cause => exact ⟨_, rfl⟩

/-- **A look at a pending race** finds it undecided and changes nothing, or decides it. -/
theorem Pending.look (h : r.Pending began l) (hrunning : r.Running began.connection)
    (timerFirst : Bool) :
    r.Undecided l ∧ l.step (.look timerFirst) = l ∨
      r.Decided began l timerFirst (l.step (.look timerFirst)) := by
  have hhere : r.Running l.connection := h.connection ▸ hrunning
  have hstep : l.step (.look timerFirst) = l.look r.attempt timerFirst := by
    simp [Life.step, h.activity]
  -- The deadline that was armed as the handshake began tells whether the look decides.
  cases hpoll : l.connection.poll r.attempt.task l.now l.ended timerFirst with
  | none =>
    refine Or.inl ⟨(Connection.poll_eq_none_iff hhere.timer).mp hpoll, ?_⟩
    rw [hstep]
    simp [Life.look, hpoll]
  | some o =>
    have hdecisive : ¬ r.Undecided l := by
      intro hundecided
      rw [(Connection.poll_eq_none_iff hhere.timer).mpr hundecided] at hpoll
      cases hpoll
    have hconclude : l.step (.look timerFirst) =
        l.conclude r.attempt.call o.connection o.effects
          (.resolved r.attempt.delivery o.result) := by
      rw [hstep]
      simp [Life.look, hpoll]
    have houtcome : r.Verdict l o.connection o.result ∧ ∃ event, o.effects = [.log event] := by
      rcases Connection.poll_eq_some hhere.timer hpoll with ⟨result, hended, rfl⟩ | ⟨hdue, rfl⟩
      · exact ⟨verdict_of_conclude hhere hended (h.own result hended), conclude_effects _ _⟩
      · exact ⟨verdict_of_expire hhere hdue, _, rfl⟩
    obtain ⟨hverdict, event, heffects⟩ := houtcome
    refine Or.inr ⟨h, hdecisive, ?_, rfl, o.result, event, ?_, ?_⟩
    · rw [hconclude]
      rfl
    · rw [hconclude]
      exact hverdict
    · rw [hconclude, Life.conclude_trace, h.trace, heffects]
      rfl

/-- **Nothing that happens later touches a decided race**: not the clock, not the task, not
another look. -/
theorem Decided.step {here : Life} {timerFirst : Bool} (h : r.Decided began here timerFirst l)
    (i : Incident) : r.Decided began here timerFirst (l.step i.move) := by
  obtain ⟨hpending, hdecisive, hactivity, hconnection, houtcome⟩ := h
  cases i with
  | pass nanos =>
    rw [Incident.move, Life.step_pass]
    exact ⟨hpending, hdecisive, hactivity, hconnection, houtcome⟩
  | finish result =>
    rw [Incident.move, Life.step_of_finish]
    refine ⟨hpending, hdecisive, ?_, ?_, ?_⟩
    · simpa using hactivity
    · simpa using hconnection
    · simpa using houtcome
  | look other =>
    have hidle : l.step (.look other) = l := by simp [Life.step, hactivity]
    rw [Incident.move, hidle]
    exact ⟨hpending, hdecisive, hactivity, hconnection, houtcome⟩

theorem Decided.happen {here : Life} {timerFirst : Bool} (h : r.Decided began here timerFirst l)
    (incidents : List Incident) :
    r.Decided began here timerFirst (l.happen incidents) := by
  induction incidents generalizing l with
  | nil => exact h
  | cons i incidents ih => exact ih (h.step i)

/-- A race that is pending has one winner from there on. -/
theorem Pending.one_winner (h : r.Pending began l) (hrunning : r.Running began.connection)
    (incidents : List Incident) : r.OneWinner began l incidents := by
  -- By induction on the incidents, from any pending state: the split is at the first look that
  -- decides, so each earlier incident goes to its front.
  induction incidents generalizing l with
  | nil =>
    refine Or.inl ⟨h, ?_⟩
    intro before timerFirst after hsplit
    simp at hsplit
  | cons i incidents ih =>
    -- The first incident decides the race, or leaves it pending for the rest.
    have hfirst :
        (r.Pending began (l.step i.move) ∧ ∀ timerFirst, i = .look timerFirst → r.Undecided l) ∨
          ∃ timerFirst, i = .look timerFirst ∧ r.Decided began l timerFirst (l.step i.move) := by
      cases i with
      | pass nanos => exact Or.inl ⟨h.pass nanos, by simp⟩
      | finish result => exact Or.inl ⟨h.finish result, by simp⟩
      | look timerFirst =>
        rcases h.look hrunning timerFirst with ⟨hundecided, hsame⟩ | hdecided
        · exact Or.inl ⟨by rw [Incident.move, hsame]; exact h, fun _ _ => hundecided⟩
        · exact Or.inr ⟨timerFirst, rfl, hdecided⟩
    rcases hfirst with ⟨hpending, hlook⟩ | ⟨timerFirst, rfl, hdecided⟩
    · rcases ih hpending with ⟨hlater, hundecided⟩ | ⟨before, timerFirst, after, hsplit, hdecided⟩
      · refine Or.inl ⟨hlater, ?_⟩
        intro before timerFirst after hsplit
        cases before with
        | nil => exact hlook timerFirst (List.cons.inj hsplit).1
        | cons j before =>
          obtain ⟨rfl, hrest⟩ := List.cons.inj hsplit
          exact hundecided before timerFirst after hrest
      · exact Or.inr ⟨i :: before, timerFirst, after, by rw [hsplit]; rfl, hdecided⟩
    · exact Or.inr ⟨[], timerFirst, incidents, rfl, hdecided.happen incidents⟩

/-! ## Every race -/

/-- The first look at a call on a ready connection begins a race. -/
theorem pending_of_ready {l : Life} {call : Nat} {delivery : Delivery} (h : l.Sound)
    (hcalled : l.activity = .called call delivery) (hready : l.connection.phase = .ready)
    (first : Bool) :
    ∃ task, l.connection.rawStream = some task.stream ∧
      Running ⟨⟨call, delivery, task⟩, l.now, l.connection.timeout⟩
        (l.step (.look first)).connection ∧
      Pending ⟨⟨call, delivery, task⟩, l.now, l.connection.timeout⟩ (l.step (.look first))
        (l.step (.look first)) := by
  obtain ⟨role, context, stream, hrole, hchannel, hsupports, hok, hracing⟩ :=
    Connection.start_of_ready h.shaped hready l.now
  have hstep : l.step (.look first) =
      l.attempt call delivery ⟨stream, (Channel.mk context (.raw stream)).side role⟩
        (l.connection.start l.now).connection (l.connection.start l.now).effects := by
    simp only [Life.step, hcalled, Life.begin, hok]
  refine ⟨⟨stream, (Channel.mk context (.raw stream)).side role⟩, ?_, ?_, ?_⟩
  · simp [Connection.rawStream, hchannel, Channel.raw?]
  · rw [hstep]
    simp only [Life.attempt, Life.become_connection, hracing]
    exact ⟨rfl, ⟨context, rfl⟩, rfl⟩
  · rw [hstep]
    refine ⟨rfl, rfl, rfl, ?_⟩
    rintro result hended
    cases hended

/-- **One consistent winner.** A handshake that begins on a ready connection runs against its
deadline. However the clock, the task and the looks are ordered, it has at most one winner, which
the outcome, the phase, the timer and the stream agree on, and which stays. -/
theorem race_has_one_winner (handle : Handle) (now : Instant) (moves : List Move) {call : Nat}
    {delivery : Delivery}
    (hcalled : ((Life.new handle now).run moves).activity = .called call delivery)
    (hready : ((Life.new handle now).run moves).connection.phase = .ready) (first : Bool)
    (incidents : List Incident) :
    let l := (Life.new handle now).run moves
    let began := l.step (.look first)
    ∃ task, l.connection.rawStream = some task.stream ∧
      began.activity = .attempting ⟨call, delivery, task⟩ ∧
      OneWinner ⟨⟨call, delivery, task⟩, l.now, l.connection.timeout⟩ began began incidents := by
  intro l began
  have hsound : l.Sound := Life.sound_run handle now moves
  obtain ⟨task, hstream, hrunning, hpending⟩ := pending_of_ready hsound hcalled hready first
  exact ⟨task, hstream, hpending.activity, hpending.one_winner hrunning incidents⟩

/-- The task ends and the deadline passes before a look that takes the deadline first. -/
theorem race_has_one_winner_of_tie :
    let l := (Life.new ⟨1⟩ 0).run (Life.bindingMoves ++ [.call .callback])
    let began := l.step (.look false)
    let incidents := [.finish (.secured ⟨0⟩), .pass 5000000000, .look true, .look false]
    l.activity = .called 0 .callback ∧ l.connection.phase = .ready ∧
      (began.happen incidents).connection.phase = .timedOut ∧
      ∃ task, l.connection.rawStream = some task.stream ∧
        began.activity = .attempting ⟨0, .callback, task⟩ ∧
        OneWinner ⟨⟨0, .callback, task⟩, l.now, l.connection.timeout⟩ began began incidents := by
  exact ⟨rfl, rfl, rfl, race_has_one_winner ⟨1⟩ 0 _ rfl rfl false _⟩

end Race

end BoundedTls
