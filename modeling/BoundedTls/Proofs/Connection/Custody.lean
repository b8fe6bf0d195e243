import BoundedTls.Proofs.Connection.Ledger

/-!
# Streams stay in custody

A stream that is given to a connection moves from the connection into a handshake task, from there
into the TLS stream, and can be dropped at each of these places: by a call that is given up, by a
shutdown, by the task itself, or with the connection. However it is dropped, it is closed, and no
task is left running that nobody owns.

A custody is a life with its ledger and the streams it was given. Every step of a life keeps the
balance of the ledger (`Ledger.Agrees.step`), and all else is read off the balance at the end of a
run.
-/

namespace BoundedTls

open BoundedTls.Time

/-! ## Custody -/

/-- The places where a stream can be. -/
inductive Place where
  | raw
  /-- Inside a handshake task, be it that the task has ended and nobody has taken the stream. -/
  | task
  /-- Inside a TLS stream, be it that a shutdown has taken it and waits for its farewell. -/
  | secured
  | closed
deriving DecidableEq, Repr

/-- Exactly one owner holds the task: the call that waits for it, or the connection after its
deadline has passed. -/
inductive Life.Owned (l : Life) (task : HandshakeTask) : Prop where
  | byCall {a : Attempt} :
      l.activity = .attempting a → a.task = task → l.connection.abandoned = none → Owned l task
  | byConnection :
      l.connection.phase = .timedOut → l.connection.abandoned = some task →
      (∀ a, l.activity ≠ .attempting a) → l.activity ≠ .gone → Owned l task

/-- A connection with everything around it, the streams it was given, and the ledger. -/
structure Custody where
  life : Life
  /-- The streams that were given to the connection, oldest first. -/
  given : List StreamId := []
  ledger : Ledger := {}

namespace Custody

def new (handle : Handle) (now : Instant) : Custody :=
  { life := .new handle now }

/-- The stream that a move gives away. -/
def offered (l : Life) (m : Move) : List StreamId :=
  match l.activity, m with
  | .resting, .initTransport _ stream _ => [stream]
  | _, _ => []

def step (k : Custody) (m : Move) : Custody :=
  { life := k.life.step m
    given := k.given ++ offered k.life m
    ledger := k.ledger.follow k.life (k.life.step m) }

def run (k : Custody) (moves : List Move) : Custody :=
  moves.foldl step k

/-- The streams at a place. -/
def streamsAt (k : Custody) : Place → List StreamId
  | .raw => k.life.raw
  | .task => (k.ledger.running ++ k.ledger.holding).map HandshakeTask.stream
  | .secured => k.life.secured
  | .closed => k.ledger.closed

/-- No task runs, and every stream that was given is closed. -/
structure Cleared (k : Custody) : Prop where
  running : k.ledger.running = []
  closed : k.given.Perm (k.streamsAt .closed)

end Custody

/-! ## Steps -/

namespace Ledger

variable {g : Ledger} {given : List StreamId} {l l' : Life} {m : Move}

/-- A task that ends keeps its stream or closes it. -/
theorem Agrees.settle (h : g.Agrees given l) {task : HandshakeTask} {result : TaskResult}
    (htask : l.task? = some task) (hended : l.ended = none) (hof : result.isOf task = true) :
    (g.settle task result).Agrees given { l with ended := some result } := by
  have hrunning : g.running = [task] := by
    rw [h.running]
    simp [Life.runningTask, hended, htask]
  have hholding : g.holding = [] := by
    rw [h.holding]
    simp [Life.holdingTask, hended]
  have hafter : ({ l with ended := some result } : Life).task? = some task := htask
  have hown : ∀ other result', ({ l with ended := some result } : Life).task? = some other →
      some result = some result' → result'.isOf other = true := by
    intro other result' hother hresult
    cases hresult
    rw [hafter] at hother
    cases hother
    exact hof
  have hcounted := h.counted
  rw [hrunning, hholding] at hcounted
  cases result with
  | secured stream =>
    refine ⟨by simp [Ledger.settle, hrunning, Life.runningTask], ?_, fun s => ?_, hown⟩
    · simp [Ledger.settle, hholding, Life.holdingTask, hafter]
    · simpa [Ledger.settle, hrunning, hholding, Life.raw, Life.secured] using hcounted s
  | fault | broken =>
    refine ⟨by simp [Ledger.settle, hrunning, Life.runningTask], ?_, fun s => ?_, hown⟩
    · simp [Ledger.settle, hholding, Life.holdingTask]
    · have hbefore := hcounted s
      simp only [Ledger.settle, hrunning, hholding, List.erase_cons_head, List.append_nil,
        List.map_cons, List.map_nil, List.count_nil, List.count_append] at hbefore ⊢
      exact hbefore.trans (by simp only [Life.raw, Life.secured]; omega)

/-- A stream that the connection does not take is closed, and nothing else happens. -/
theorem follow_of_refused (g : Ledger) {runtime : Runtime} {stream : StreamId} {role : Role}
    (hsame : (l.connection.initTransport l.now runtime stream role).connection = l.connection)
    (heffects : (l.connection.initTransport l.now runtime stream role).effects.filter
      Effect.isTransfer = [.closed stream]) :
    g.follow l (l.initTransport runtime stream role) =
      { g with closed := g.closed ++ [stream] } := by
  have htrace : (l.initTransport runtime stream role).trace = l.trace ++
      ((l.connection.initTransport l.now runtime stream role).effects.map .effect ++
        [.bound (l.connection.initTransport l.now runtime stream role).result]) := rfl
  have hsecured : (l.initTransport runtime stream role).connection.securedStream =
      l.connection.securedStream := by
    simp only [Life.initTransport, Life.become_connection, hsame]
  rw [follow_of_transfers htrace (Or.inl rfl) (Or.inl hsecured), transfers_append,
    transfers_effects, transfers_cons_of_other rfl, heffects, transfers_nil, List.append_nil]
  rfl

/-- A stream that the connection is given is held raw or closed. -/
theorem Agrees.initTransport (hsound : l.Sound) (h : g.Agrees given l)
    (hactivity : l.activity = .resting) (runtime : Runtime) (stream : StreamId) (role : Role) :
    (g.follow l (l.initTransport runtime stream role)).Agrees (given ++ [stream])
      (l.initTransport runtime stream role) := by
  have hafter : (l.initTransport runtime stream role).activity = .resting := hactivity
  have htrace : (l.initTransport runtime stream role).trace = l.trace ++
      ((l.connection.initTransport l.now runtime stream role).effects.map .effect ++
        [.bound (l.connection.initTransport l.now runtime stream role).result]) := rfl
  have hended : (l.initTransport runtime stream role).ended = l.ended := rfl
  have hconnection : (l.initTransport runtime stream role).connection =
      (l.connection.initTransport l.now runtime stream role).connection := rfl
  obtain ⟨e, -, hsame, heffects⟩ | ⟨hidle, -, hraw, hsecured, habandoned, heffects⟩ :=
    Connection.initTransport_transfers l.connection l.now runtime stream role
  · -- The connection is as it was, and the stream is closed.
    rw [follow_of_refused g hsame heffects]
    rw [hsame] at hconnection
    generalize l.initTransport runtime stream role = l' at *
    have hquiet : g.Agrees given l' := by
      refine h.quiet ?_ hended ?_ ?_
      · simp only [Life.task?, hafter, hactivity, hconnection]
      · simp only [Life.raw, hafter, hactivity, hconnection]
      · simp only [Life.secured, hafter, hactivity, hconnection]
    refine ⟨hquiet.running, hquiet.holding, fun s => ?_, hquiet.own⟩
    have hbefore := hquiet.counted s
    simp only [List.count_append] at hbefore ⊢
    omega
  · -- An idle connection held nothing, and now it holds the stream.
    generalize l.initTransport runtime stream role = l' at *
    obtain ⟨-, -, hchannel, -, hnone⟩ := hsound.shaped.of_idle hidle
    rw [← hconnection] at hraw hsecured habandoned
    have hbefore : l.raw = [] ∧ l.secured = [] := by
      simp [Life.raw, Life.secured, hactivity, Connection.unsecuredStream,
        Connection.securedStream, hchannel]
    have hheld : l'.raw = [stream] ∧ l'.secured = [] := by
      simp [Life.raw, Life.secured, hafter, hraw, hsecured]
    have hnotask : l'.task? = none := by simp only [Life.task?, hafter, habandoned, hnone]
    obtain ⟨hrunning, hholding⟩ := h.no_task (by simp only [Life.task?, hactivity, hnone])
    refine .of_transfers htrace (Or.inl hended) (Or.inr hsecured) ?_
    rw [transfers_append, transfers_effects, transfers_cons_of_other rfl, heffects, transfers_nil,
      List.append_nil, performAll_nil]
    refine ⟨?_, ?_, fun s => ?_, by simp [hnotask]⟩
    · simp [hrunning, Life.runningTask_eq_none hnotask]
    · simp [hholding, Life.holdingTask_eq_none hnotask]
    · have hcount := h.counted s
      simp only [hheld, hbefore, List.count_append, List.count_nil] at hcount ⊢
      omega

/-- The task that begins takes the stream that was held raw. -/
theorem Agrees.attempt (hsound : l.Sound) (h : g.Agrees given l) {call : Nat} {delivery : Delivery}
    {task : HandshakeTask} (hactivity : l.activity = .called call delivery)
    (hok : (l.connection.start l.now).result = .ok task) :
    (g.follow l (l.attempt call delivery task (l.connection.start l.now).connection
        (l.connection.start l.now).effects)).Agrees given
      (l.attempt call delivery task (l.connection.start l.now).connection
        (l.connection.start l.now).effects) := by
  obtain ⟨hready, hraw, hstage, heffects⟩ := Connection.start_transfers hsound.shaped hok
  obtain ⟨_, _, _, _, _, -, -, -, hchannel, -, -⟩ := hsound.shaped.of_ready hready
  generalize (l.connection.start l.now).connection = c at *
  generalize (l.connection.start l.now).effects = effects at *
  have hbefore : l.raw = [task.stream] ∧ l.secured = [] := by
    simp [Life.raw, Life.secured, hactivity, hraw, Connection.securedStream, hchannel,
      Channel.secure?]
  obtain ⟨hrunning, hholding⟩ := h.no_task
    (hsound.task_eq_none (by simp [hready]) (by simp [hactivity]))
  have hsecured : c.securedStream = none ∧ c.unsecuredStream = none := by
    obtain ⟨channel, hc, hhandshaking⟩ := Option.map_eq_some_iff.mp hstage
    simp [Connection.securedStream, Connection.unsecuredStream, hc, Channel.secure?, hhandshaking]
  have hafter : (l.attempt call delivery task c effects).raw = [] ∧
      (l.attempt call delivery task c effects).secured = [] := by
    simp [Life.raw, Life.secured, Life.attempt, hsecured]
  refine .of_transfers rfl (Or.inr rfl) (Or.inr hsecured.1) ?_
  rw [transfers_cons_of_other rfl, transfers_effects, heffects, performAll_cons, performAll_nil]
  refine ⟨?_, ?_, fun s => ?_, fun _ _ _ hended => by cases hended⟩
  · simp [perform, hrunning, Life.attempt, Life.runningTask, Life.task?]
  · simp [perform, hholding, Life.attempt, Life.holdingTask]
  · have hcount := h.counted s
    simpa [perform, hrunning, hholding, hbefore, hafter] using hcount

/-- The connection takes the stream that its task has secured. -/
theorem Agrees.establish (h : g.Agrees given l) {task : HandshakeTask} {seen : List Occurrence}
    (htask : l.task? = some task) (hended : l.ended = some (.secured task.stream))
    (hbefore : l.raw = [] ∧ l.secured = []) (hnone : l.connection.securedStream = none)
    (htrace : l'.trace = l.trace ++ seen) (htransfers : transfers seen = [])
    (hafter : l'.raw = [] ∧ l'.secured = [task.stream])
    (hsome : l'.connection.securedStream = some task.stream) (hnotask : l'.task? = none) :
    (g.follow l l').Agrees given l' := by
  have hrunning : g.running = [] := by
    rw [h.running]
    simp [Life.runningTask, hended]
  have hholding : g.holding = [task] := by
    rw [h.holding]
    simp [Life.holdingTask, hended, htask]
  have hfollow : g.follow l l' = g.take task.stream := by
    unfold transfers at htransfers
    simp only [follow, hended, hnone, hsome, Life.since, htrace, List.drop_left]
    rw [← performAll_filter, htransfers, performAll_nil]
    split <;> simp_all
  rw [hfollow]
  refine ⟨?_, ?_, fun s => ?_, by simp [hnotask]⟩
  · simp [take, hrunning, Life.runningTask_eq_none hnotask]
  · simp [take, hholding, Life.holdingTask_eq_none hnotask]
  · have hcount := h.counted s
    simpa [take, hrunning, hholding, hbefore, hafter] using hcount

/-- A task that has ended without a stream is forgotten. -/
theorem Agrees.forget (h : g.Agrees given l) {seen : List Occurrence}
    (hunsecured : l.runningTask = none ∧ l.holdingTask = none)
    (htrace : l'.trace = l.trace ++ seen) (htransfers : transfers seen = [])
    (hended : l'.ended = l.ended)
    (hstream : l'.connection.securedStream = l.connection.securedStream ∨
      l'.connection.securedStream = none)
    (hnotask : l'.task? = none) (hraw : l'.raw = l.raw) (hsecured : l'.secured = l.secured) :
    (g.follow l l').Agrees given l' := by
  refine .of_transfers htrace (Or.inl hended) hstream ?_
  rw [htransfers]
  refine ⟨?_, ?_, fun s => ?_, by simp [hnotask]⟩
  · rw [performAll_nil, h.running, hunsecured.1, Life.runningTask_eq_none hnotask]
  · rw [performAll_nil, h.holding, hunsecured.2, Life.holdingTask_eq_none hnotask]
  · rw [hraw, hsecured]
    exact h.counted s

/-- The outcome of a race finds the stream in the connection, in the abandoned task or closed. -/
theorem Agrees.resolve (hsound : l.Sound) (h : g.Agrees given l) {a : Attempt}
    (hactivity : l.activity = .attempting a) {o : Connection.Outcome Unit} {timerFirst : Bool}
    (hpoll : l.connection.poll a.task l.now l.ended timerFirst = some o) (r : Report) :
    (g.follow l (l.conclude a.call o.connection o.effects r)).Agrees given
      (l.conclude a.call o.connection o.effects r) := by
  obtain ⟨role, _, context, deadline, -, -, -, hchannel, htimer, habandoned⟩ :=
    hsound.shaped.of_handshaking (hsound.attempting a hactivity)
  have htask : l.task? = some a.task := by simp only [Life.task?, hactivity]
  have hnone : l.connection.unsecuredStream = none ∧ l.connection.securedStream = none := by
    simp [Connection.unsecuredStream, Connection.securedStream, hchannel, Channel.secure?]
  have hbefore : l.raw = [] ∧ l.secured = [] := by
    simp [Life.raw, Life.secured, hactivity, hnone]
  rcases Connection.poll_eq_some htimer hpoll with ⟨result, hended, rfl⟩ | ⟨-, rfl⟩
  · have hquiet := Connection.conclude_transfers l.connection result
    rcases Connection.conclude_cases l.connection result with
      ⟨stream, rfl, -, heq⟩ | ⟨e, houtcome, -, heq⟩
    · -- The secured stream is the one that the task was given.
      have hstream : stream = a.task.stream := by
        simpa [TaskResult.isOf] using h.own a.task _ htask hended
      subst hstream
      refine h.establish htask hended hbefore hnone.2 rfl (by simp [hquiet]) ?_ ?_ ?_
      · simp [Life.raw, Life.secured, heq, hchannel, Connection.unsecuredStream,
          Connection.securedStream, Channel.establish, Channel.secure?]
      · simp [heq, hchannel, Connection.securedStream, Channel.establish, Channel.secure?]
      · simp [Life.task?, heq, habandoned]
    · -- The task has dropped the stream already, and is gone.
      have hunsecured : l.runningTask = none ∧ l.holdingTask = none := by
        cases result with
        | secured stream => cases houtcome
        | fault | broken => simp [Life.runningTask, Life.holdingTask, hended]
      refine h.forget hunsecured rfl (by simp [hquiet]) rfl ?_ ?_ ?_ ?_
      · exact Or.inl (by simp [heq, Connection.securedStream])
      · simp [Life.task?, heq, habandoned]
      · rw [hbefore.1]
        simp [Life.raw, Connection.unsecuredStream, heq, hchannel]
      · rw [hbefore.2]
        simp [Life.secured, Connection.securedStream, heq, hchannel, Channel.secure?]
  · -- The task goes on, and belongs to the connection from now on.
    refine h.unmoved rfl ?_ rfl (Or.inl rfl) ?_ ?_ ?_
    · rw [transfers_append, transfers_effects, transfers_seen]
      rfl
    · rw [htask]
      rfl
    · rw [hbefore.1]
      simpa [Life.raw, Connection.expire, Connection.unsecuredStream] using hnone.1
    · rw [hbefore.2]
      simpa [Life.secured, Connection.expire, Connection.securedStream] using hnone.2

/-- Settings concern neither tasks nor streams. -/
theorem Agrees.set (h : g.Agrees given l) (hactivity : l.activity = .resting) (s : Setting) :
    (g.follow l (l.set s)).Agrees given (l.set s) := by
  have hsecured : (l.set s).connection.securedStream = l.connection.securedStream := by
    simp [Life.set, Connection.securedStream]
  have hraw : (l.set s).connection.unsecuredStream = l.connection.unsecuredStream := by
    simp [Life.set, Connection.unsecuredStream]
  have hquiet : (s.put l.connection).2.filter Effect.isTransfer = [] := by
    cases s <;> rfl
  have htrace : (l.set s).trace = l.trace ++ (s.put l.connection).2.map .effect := rfl
  refine h.unmoved htrace ((transfers_effects _).trans hquiet) rfl (Or.inl hsecured) ?_ ?_ ?_
  · simp only [Life.task?, Life.set_activity, hactivity]
    exact s.put_abandoned l.connection
  · simp only [Life.raw, Life.set_activity, hactivity, hraw]
  · simp only [Life.secured, Life.set_activity, hactivity, hsecured]

/-- A call that nobody has looked at moves nothing when it ends. -/
theorem Agrees.uncalled (h : g.Agrees given l) {call : Nat} {delivery : Delivery}
    (hactivity : l.activity = .called call delivery) (r : Report) :
    (g.follow l (l.conclude call l.connection [] r)).Agrees given
      (l.conclude call l.connection [] r) := by
  refine h.unmoved rfl (by simp) rfl (Or.inl rfl) ?_ ?_ ?_
  · simp [Life.task?, hactivity]
  · simp [Life.raw, hactivity]
  · simp [Life.secured, hactivity]

/-- A shutdown that waits holds the stream itself. -/
theorem Agrees.release (hsound : l.Sound) (h : g.Agrees given l) (hactivity : l.activity = .resting)
    {stream : StreamId} (hfarewell : l.farewellTo = some stream) :
    (g.follow l { l.beginShutdown with activity := .closing stream }).Agrees given
      { l.beginShutdown with activity := .closing stream } := by
  obtain ⟨hquiet, habandoned, hraw, hsecured⟩ :=
    Connection.beginShutdown_waiting hsound.shaped l.ended.isSome hfarewell
  obtain ⟨hunsecured, hclosed⟩ := l.beginShutdown_empty
  have htrace : l.beginShutdown.trace =
      l.trace ++ (l.connection.beginShutdown l.ended.isSome).2.2.map .effect := rfl
  refine h.unmoved htrace ((transfers_effects _).trans hquiet) rfl (Or.inr hclosed) ?_ ?_ ?_
  · simp only [Life.task?, hactivity, habandoned]
    rfl
  · simp [Life.raw, hactivity, hraw, hunsecured]
  · simp [Life.secured, hactivity, hsecured, hclosed]

/-- A shutdown that has nothing to wait for drops everything. -/
theorem Agrees.shut (h : g.Agrees given l) (hactivity : l.activity = .resting)
    (hfarewell : l.farewellTo = none) :
    (g.follow l (l.beginShutdown.endShutdown none (.ok ()))).Agrees given
      (l.beginShutdown.endShutdown none (.ok ())) := by
  obtain ⟨hunsecured, hclosed⟩ := l.beginShutdown_empty
  have htrace : (l.beginShutdown.endShutdown none (.ok ())).trace = l.trace ++
      ((l.connection.beginShutdown l.ended.isSome).2.2.map .effect ++ []) :=
    List.append_assoc _ _ _
  refine .of_transfers htrace (Or.inl rfl) (Or.inr hclosed) ?_
  rw [List.append_nil, transfers_effects, Connection.beginShutdown_transfers _ hfarewell]
  refine h.emptied ?_ rfl ?_ ?_
  · simp [Life.task?, Life.raw, Life.secured, hactivity]
  · simp only [Life.raw, Life.endShutdown_activity]
    exact congrArg Option.toList hunsecured
  · simp only [Life.secured, Life.endShutdown_activity]
    exact congrArg Option.toList hclosed

/-- A shutdown that ends its wait, with its farewell or without, drops the stream it has taken. -/
theorem Agrees.part (hsound : l.Sound) (h : g.Agrees given l) {stream : StreamId}
    (hactivity : l.activity = .closing stream) {seen : List Occurrence}
    (htrace : l'.trace = l.trace ++ seen) (htransfers : transfers seen = [.closed stream])
    (hended : l'.ended = l.ended) (hresting : l'.activity = .resting)
    (hchannel : l'.connection.channel = l.connection.channel)
    (habandoned : l'.connection.abandoned = l.connection.abandoned) :
    (g.follow l l').Agrees given l' := by
  obtain ⟨hphase, context, hclosed⟩ := hsound.closing stream hactivity
  have hnotask : l.task? = none :=
    hsound.task_eq_none (by simp [hphase]) (by simp [hactivity])
  have hempty : l.connection.unsecuredStream = none ∧ l.connection.securedStream = none := by
    simp [Connection.unsecuredStream, Connection.securedStream, hclosed, Channel.secure?]
  have hempty' : l'.connection.unsecuredStream = none ∧ l'.connection.securedStream = none := by
    simp [Connection.unsecuredStream, Connection.securedStream, hchannel, hclosed, Channel.secure?]
  refine .of_transfers htrace (Or.inl hended) (Or.inr hempty'.2) ?_
  rw [htransfers]
  refine h.emptied ?_ ?_ ?_ ?_
  · simp [hnotask, Life.raw, Life.secured, hactivity, hempty]
  · simpa [Life.task?, hactivity, hresting, habandoned] using hnotask
  · simp [Life.raw, hresting, hempty']
  · simp [Life.secured, hresting, hempty']

/-- **Every step that gives no stream away keeps the balance.** -/
theorem Agrees.step (hsound : l.Sound) (h : g.Agrees given l) (s : Life.Step l m l')
    (hm : Custody.offered l m = []) : (g.follow l l').Agrees given l' := by
  cases s with
  | idle =>
    exact .of_transfers (List.append_nil _).symm (Or.inl rfl) (Or.inl rfl) h
  | pass nanos =>
    exact h.unmoved (List.append_nil _).symm rfl rfl (Or.inl rfl) rfl rfl rfl
  | @finish task result htask hended hof =>
    have hfollow : g.follow l { l with ended := some result } = g.settle task result := by
      simp only [follow, htask, hended, Life.since, List.drop_length]
      split
      · simp_all
      · rfl
    rw [hfollow]
    exact h.settle htask hended hof
  | set s hactivity => exact h.set hactivity s
  | initTransport runtime stream role hactivity => simp [Custody.offered, hactivity] at hm
  | call delivery hactivity =>
    refine h.unmoved rfl (transfers_cons_of_other rfl []) rfl (Or.inl rfl) ?_ ?_ ?_
    · simp [Life.task?, Life.call, hactivity]
    · simp [Life.raw, Life.call, hactivity]
    · simp [Life.secured, Life.call, hactivity]
  | attempt first hactivity hok => exact h.attempt hsound hactivity hok
  | refuse first hactivity herror =>
    rw [(Connection.start_error hsound.shaped herror).2]
    exact h.uncalled hactivity _
  | resolve timerFirst hactivity hpoll => exact h.resolve hsound hactivity hpoll _
  | forget hactivity => exact h.uncalled hactivity _
  | @giveUp a hactivity =>
    obtain ⟨habandoned, hempty⟩ := hsound.shaped.empty (Or.inl (hsound.attempting _ hactivity))
    refine .of_transfers rfl (Or.inl rfl) (Or.inl rfl) ?_
    refine h.emptied ?_ habandoned ?_ ?_
    · simp only [Life.task?, Life.raw, Life.secured, hactivity, hempty]
      rfl
    · exact congrArg Option.toList hempty.1
    · exact congrArg Option.toList hempty.2
  | release hactivity hfarewell => exact h.release hsound hactivity hfarewell
  | shut hactivity hfarewell => exact h.shut hactivity hfarewell
  | farewell answer hactivity =>
    refine h.part hsound hactivity rfl ?_ rfl rfl rfl rfl
    cases answer <;> rfl
  | leave hactivity => exact h.part hsound hactivity rfl rfl rfl rfl rfl rfl
  | drop hactivity =>
    have htrace : l.discard.trace = l.trace ++ l.connection.discard.map .effect := rfl
    refine .of_transfers htrace (Or.inl rfl) (Or.inl rfl) ?_
    rw [transfers_effects, Connection.discard_transfers]
    refine h.emptied ?_ rfl rfl rfl
    simp [Life.task?, Life.raw, Life.secured, hactivity]

end Ledger

namespace Custody

variable {k : Custody}

/-! ## Every run -/

/-- What every run keeps. -/
structure Kept (k : Custody) : Prop where
  sound : k.life.Sound
  agrees : k.ledger.Agrees k.given k.life

theorem new_kept (handle : Handle) (now : Instant) : (new handle now).Kept :=
  ⟨Life.new_sound handle now, rfl, rfl, fun _ => rfl, fun _ _ htask => by cases htask⟩

theorem kept_step (h : k.Kept) (m : Move) : (k.step m).Kept := by
  have hstep : Life.Step k.life m (k.life.step m) := Life.step_is_step k.life m
  refine ⟨Life.sound_step h.sound hstep, ?_⟩
  by_cases hm : offered k.life m = []
  · simpa [step, hm] using h.agrees.step h.sound hstep hm
  · -- Only a connection whose owner rests is given a stream.
    unfold offered at hm
    split at hm
    · rename_i runtime stream role hactivity
      simpa [step, offered, hactivity, Life.step] using
        h.agrees.initTransport h.sound hactivity runtime stream role
    · exact absurd rfl hm

theorem kept_run (h : k.Kept) (moves : List Move) : (k.run moves).Kept := by
  induction moves generalizing k with
  | nil => exact h
  | cons m moves ih => exact ih (kept_step h m)

/-- No stream is lost, and none is doubled. -/
theorem Kept.conserved (h : k.Kept) :
    k.given.Perm (k.streamsAt .raw ++ k.streamsAt .task ++ k.streamsAt .secured ++
      k.streamsAt .closed) := by
  apply List.perm_iff_count.mpr
  intro s
  simp only [List.count_append]
  exact h.agrees.counted s

/-- A stream that was given once is at one place. -/
theorem Kept.one_place (h : k.Kept) (hdistinct : k.given.Nodup) {s : StreamId} (hs : s ∈ k.given) :
    ∃ p, s ∈ k.streamsAt p ∧ ∀ q, s ∈ k.streamsAt q → q = p := by
  have hone : (k.streamsAt .raw).count s + (k.streamsAt .task).count s +
      (k.streamsAt .secured).count s + (k.streamsAt .closed).count s = 1 := by
    have hgiven : k.given.count s = 1 := by rw [hdistinct.count, if_pos hs]
    exact (h.agrees.counted s).symm.trans hgiven
  have hmem (p : Place) : s ∈ k.streamsAt p ↔ 0 < (k.streamsAt p).count s :=
    List.count_pos_iff.symm
  obtain ⟨p, hp⟩ : ∃ p, 0 < (k.streamsAt p).count s := by
    apply Classical.byContradiction
    intro hnowhere
    have hzero (p : Place) : (k.streamsAt p).count s = 0 :=
      Nat.eq_zero_of_not_pos fun hpos => hnowhere ⟨p, hpos⟩
    simp [hzero] at hone
  refine ⟨p, (hmem p).mpr hp, fun q hq => ?_⟩
  have hq := (hmem q).mp hq
  -- Two places would count the stream twice.
  cases p <;> cases q <;> first | rfl | omega

/-- There is at most one task, and it has an owner. -/
theorem Kept.owned (h : k.Kept) :
    k.ledger.running.length ≤ 1 ∧ ∀ task ∈ k.ledger.running, k.life.Owned task := by
  rw [h.agrees.running]
  refine ⟨by cases k.life.runningTask <;> simp, fun task hrunning => ?_⟩
  have htask : k.life.task? = some task := by
    have hsome := Option.mem_toList.mp hrunning
    unfold Life.runningTask at hsome
    split at hsome
    · exact hsome
    · cases hsome
  by_cases hattempting : ∃ a, k.life.activity = .attempting a
  · obtain ⟨a, ha⟩ := hattempting
    obtain ⟨_, _, _, _, -, -, -, -, -, habandoned⟩ :=
      h.sound.shaped.of_handshaking (h.sound.attempting a ha)
    exact .byCall ha (by simpa [Life.task?, ha] using htask) habandoned
  · have hactivity : ∀ a, k.life.activity ≠ .attempting a := fun a ha => hattempting ⟨a, ha⟩
    have hphase : k.life.connection.phase = .timedOut := by
      apply Classical.byContradiction
      intro hphase
      rw [h.sound.task_eq_none hphase hactivity] at htask
      cases htask
    unfold Life.task? at htask
    split at htask
    · exact absurd ‹_› (hactivity _)
    · cases htask
    all_goals exact .byConnection hphase htask hactivity (by simp [*])

/-! ## What is left behind -/

/-- Without a task, without a raw stream and without a secured one, all is closed. -/
theorem Kept.cleared (h : k.Kept) (htask : k.life.task? = none) (hraw : k.life.raw = [])
    (hsecured : k.life.secured = []) : k.Cleared := by
  obtain ⟨hrunning, hholding⟩ := h.agrees.no_task htask
  refine ⟨hrunning, ?_⟩
  have hperm := h.conserved
  simpa only [streamsAt, hraw, hsecured, hrunning, hholding, List.map_nil, List.append_nil,
    List.nil_append] using hperm

/-- An owner who rests beside a connection that holds nothing has nothing to close. -/
theorem Kept.cleared_of_resting (h : k.Kept) (hactivity : k.life.activity = .resting)
    (habandoned : k.life.connection.abandoned = none)
    (hraw : k.life.connection.unsecuredStream = none)
    (hsecured : k.life.connection.securedStream = none) : k.Cleared := by
  apply h.cleared
  · simp only [Life.task?, hactivity, habandoned]
  · simp [Life.raw, hactivity, hraw]
  · simp [Life.secured, hactivity, hsecured]

/-- Whatever ends a connection, or a call on it, leaves no stream open and no task behind. -/
structure ClosesBehind (k : Custody) : Prop where
  refused : ∀ {runtime stream role e}, k.life.activity = .resting →
    (k.life.connection.initTransport k.life.now runtime stream role).result = .error e →
      (k.step (.initTransport runtime stream role)).streamsAt .closed =
        k.streamsAt .closed ++ [stream]
  givenUp : ∀ {a}, k.life.activity = .attempting a → (k.step .giveUp).Cleared
  /-- A shutdown is over at once, or waits for the farewell to a secured stream. -/
  shut : k.life.activity = .resting → (k.step .shutdown).Cleared ∨
    ∃ stream, (k.step .shutdown).life.activity = .closing stream
  farewell : ∀ {stream} answer, k.life.activity = .closing stream →
    (k.step (.farewell answer)).Cleared
  left : ∀ {stream}, k.life.activity = .closing stream → (k.step .leave).Cleared
  dropped : k.life.activity = .resting → (k.step .drop).Cleared

theorem closed_of_refused {runtime : Runtime} {stream : StreamId} {role : Role}
    {e : ConnectionError}
    (hactivity : k.life.activity = .resting)
    (herror : (k.life.connection.initTransport k.life.now runtime stream role).result = .error e) :
    (k.step (.initTransport runtime stream role)).streamsAt .closed =
      k.streamsAt .closed ++ [stream] := by
  rcases Connection.initTransport_transfers k.life.connection k.life.now runtime stream role with
    ⟨_, -, hsame, heffects⟩ | ⟨-, hok, -⟩
  · have hafter : (k.step (.initTransport runtime stream role)).ledger =
        k.ledger.follow k.life (k.life.initTransport runtime stream role) := by
      simp [step, Life.step, hactivity]
    have hclosed := Ledger.follow_of_refused k.ledger hsame heffects
    simp only [streamsAt, hafter, hclosed]
  · rw [hok] at herror
    cases herror

theorem Kept.closesBehind (h : k.Kept) : k.ClosesBehind where
  refused := closed_of_refused
  givenUp := by
    intro a hactivity
    have hafter : (k.step .giveUp).life = k.life.giveUp a := by simp [step, Life.step, hactivity]
    obtain ⟨habandoned, hraw, hsecured⟩ :=
      h.sound.shaped.empty (Or.inl (h.sound.attempting a hactivity))
    exact (kept_step h .giveUp).cleared_of_resting (by rw [hafter]; rfl)
      (by rw [hafter]; exact habandoned) (by rw [hafter]; exact hraw)
      (by rw [hafter]; exact hsecured)
  shut := by
    intro hactivity
    have hkept := kept_step h .shutdown
    have hafter : (k.step .shutdown).life = k.life.shutdown := by simp [step, Life.step, hactivity]
    unfold Life.shutdown at hafter
    split at hafter
    · exact Or.inr ⟨_, by rw [hafter]⟩
    · obtain ⟨habandoned, hraw, hsecured⟩ := hkept.sound.shaped.empty (Or.inr (by rw [hafter]; rfl))
      exact Or.inl (hkept.cleared_of_resting (by rw [hafter]; rfl) habandoned hraw hsecured)
  farewell := by
    intro stream answer hactivity
    have hkept := kept_step h (.farewell answer)
    have hafter : (k.step (.farewell answer)).life = k.life.endShutdown (some stream) answer := by
      simp [step, Life.step, hactivity]
    obtain ⟨habandoned, hraw, hsecured⟩ := hkept.sound.shaped.empty (Or.inr (by rw [hafter]; rfl))
    exact hkept.cleared_of_resting (by rw [hafter]; rfl) habandoned hraw hsecured
  left := by
    intro stream hactivity
    have hafter : (k.step .leave).life = k.life.leave stream := by
      simp [step, Life.step, hactivity]
    obtain ⟨hphase, context, hclosed⟩ := h.sound.closing stream hactivity
    refine (kept_step h .leave).cleared_of_resting (by rw [hafter]; rfl) ?_ ?_ ?_
    · rw [hafter]
      simpa [Life.leave, hphase] using h.sound.shaped.abandoned_iff
    · rw [hafter]
      simp [Life.leave, Connection.unsecuredStream, hclosed]
    · rw [hafter]
      simp [Life.leave, Connection.securedStream, hclosed, Channel.secure?]
  dropped := by
    intro hactivity
    have hafter : (k.step .drop).life = k.life.discard := by simp [step, Life.step, hactivity]
    exact (kept_step h .drop).cleared (by rw [hafter]; rfl) (by rw [hafter]; rfl)
      (by rw [hafter]; rfl)

/-! ## The statement -/

/-- **Streams stay in custody.** At the end of every run, the streams that a connection was given
are spread over its four places, and none is lost or doubled: one that was given once is held raw,
or is in the task, or is secured, or is closed. At most one task runs, and either the pending call
owns it or the connection whose deadline has passed. Giving up a call that waits, shutting down and
dropping the connection close all streams and leave no task, and a stream that the connection does
not take is closed. -/
theorem streams_stay_in_custody (handle : Handle) (now : Instant) (moves : List Move) :
    let k := (new handle now).run moves
    k.given.Perm (k.streamsAt .raw ++ k.streamsAt .task ++ k.streamsAt .secured ++
        k.streamsAt .closed) ∧
      (k.given.Nodup → ∀ s ∈ k.given, ∃ p, s ∈ k.streamsAt p ∧ ∀ q, s ∈ k.streamsAt q → q = p) ∧
      k.ledger.running.length ≤ 1 ∧ (∀ task ∈ k.ledger.running, k.life.Owned task) ∧
      k.ClosesBehind := by
  intro k
  have h : k.Kept := kept_run (new_kept handle now) moves
  obtain ⟨hsingle, howned⟩ := h.owned
  exact ⟨h.conserved, fun hdistinct _ hs => h.one_place hdistinct hs, hsingle, howned,
    h.closesBehind⟩

end Custody

end BoundedTls
