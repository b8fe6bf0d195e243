import BoundedTls.World.Attempt

/-!
# The life of a connection

All that can happen to one connection, in any order. Its owner changes settings, binds it to a
stream, asks for a handshake, looks at the pending call or gives it up, shuts the connection down
and drops it; meanwhile the clock moves and the handshake task ends whenever it likes.

## Architecture

- **Moves**: what the owner, the clock and the task can do (`Move`).
- **Lives**: a connection, what its owner is in the middle of, and all that was seen of it so far
  (`Life`), with one total step function `Life.step`. A move that does not fit what the owner is
  doing changes nothing.
- **Steps**: `Life.Step` says case by case what a step can be. A fact about all lives is proved
  over its cases and carried along a run by `Life.run_induction`.
-/

namespace BoundedTls

open BoundedTls.Time

/-! ## Moves -/

/-- A setting that the owner of a connection puts onto it. -/
inductive Setting where
  | handle (handle : Handle)
  | timeout (timeout : Duration)
  | preparer (preparer : StreamPreparer)
  | provider (provider : TlsProvider)
  | stamp (endpoint : Endpoint)

def Setting.put (s : Setting) (c : Connection) : Connection × List Effect :=
  match s with
  | .handle h => (c.setHandle h, [])
  | .timeout d => (c.setTimeout d, [])
  | .preparer p => (c.setPreparer p, [])
  | .provider p => (c.setProvider p, [])
  | .stamp e => e.stamp c

/-- What the owner of a connection, the clock and the handshake task can do. -/
inductive Move where
  | set (setting : Setting)
  | initTransport (runtime : Runtime) (stream : StreamId) (role : Role)
  /-- Ask for a handshake. Nothing happens before the call is looked at. -/
  | call (delivery : Delivery)
  /-- Look at the pending call. Where the task has ended and the deadline has passed, the one that
  is looked at first wins. -/
  | look (timerFirst : Bool)
  | giveUp
  | shutdown
  /-- The farewell of a pending shutdown has come to its end. -/
  | farewell (answer : Except Fault Unit)
  | leave
  | drop
  | pass (nanos : Nat)
  | finish (result : TaskResult)

/-! ## Lives -/

/-- What is seen of a connection from outside. Calls for a handshake are numbered. -/
inductive Occurrence where
  | effect (effect : Effect)
  /-- The connection was asked to take a stream, and this was the answer. -/
  | bound (answer : Except ConnectionError Unit)
  | called (call : Nat) (delivery : Delivery)
  /-- The call has passed the check of the phase. -/
  | began (call : Nat)
  | calledBack (call : Nat) (outcome : Except ConnectionError Unit)
  | returned (call : Nat) (answer : Except ConnectionError Unit)
  /-- The call was dropped before it returned. -/
  | dropped (call : Nat)

/-- A report as it is seen from outside: callbacks first. -/
def Report.seen (r : Report) (call : Nat) : List Occurrence :=
  let ending :=
    match r.returned with
    | some answer => Occurrence.returned call answer
    | none => .dropped call
  r.callbacks.map (.calledBack call) ++ [ending]

structure Attempt where
  call : Nat
  delivery : Delivery
  task : HandshakeTask
deriving DecidableEq, Repr

/-- What the owner of a connection is in the middle of. -/
inductive Activity where
  | resting
  /-- A handshake was asked for, and nobody has looked at the call yet. -/
  | called (call : Nat) (delivery : Delivery)
  | attempting (attempt : Attempt)
  /-- A shutdown waits for the farewell to this stream. -/
  | closing (stream : StreamId)
  | gone
deriving DecidableEq, Repr

/-- The result is one that the task can have: a secured stream is its own. -/
def TaskResult.isOf (result : TaskResult) (task : HandshakeTask) : Bool :=
  match result with
  | .secured stream => stream = task.stream
  | .fault _ | .broken _ => true

/-- A connection with everything around it. -/
structure Life where
  connection : Connection
  now : Instant
  activity : Activity := .resting
  /-- The result of the task that was started last, once it has ended. -/
  ended : Option TaskResult := none
  /-- The number of calls for a handshake so far. -/
  calls : Nat := 0
  /-- The phases that the connection has been in, oldest first. -/
  path : List Phase := [.idle]
  trace : List Occurrence := []

namespace Life

def new (handle : Handle) (now : Instant) : Life :=
  { connection := .new handle, now }

/-- The connection changes, and this is seen of it. -/
def become (l : Life) (c : Connection) (seen : List Occurrence) : Life :=
  { l with
    connection := c
    path := if c.phase = l.connection.phase then l.path else l.path ++ [c.phase]
    trace := l.trace ++ seen }

/-- The handshake task that is alive: its owner is the pending call, or the connection itself. -/
def task? (l : Life) : Option HandshakeTask :=
  match l.activity with
  | .attempting a => some a.task
  | .gone => none
  | .resting | .called _ _ | .closing _ => l.connection.abandoned

/-- The handshake task ends, if one is alive. -/
def finish (l : Life) (result : TaskResult) : Life :=
  match l.task?, l.ended with
  | some task, none => if result.isOf task then { l with ended := some result } else l
  | _, _ => l

def set (l : Life) (s : Setting) : Life :=
  let (c, effects) := s.put l.connection
  l.become c (effects.map .effect)

def initTransport (l : Life) (runtime : Runtime) (stream : StreamId) (role : Role) : Life :=
  let bound := l.connection.initTransport l.now runtime stream role
  l.become bound.connection (bound.effects.map .effect ++ [.bound bound.result])

def call (l : Life) (delivery : Delivery) : Life :=
  { l with
    calls := l.calls + 1
    activity := .called l.calls delivery
    trace := l.trace ++ [.called l.calls delivery] }

/-- A pending call is over, and this is the report about it. -/
def conclude (l : Life) (call : Nat) (c : Connection) (effects : List Effect) (r : Report) :
    Life :=
  { l.become c (effects.map .effect ++ r.seen call) with activity := .resting }

/-- A call passes the check of the phase. -/
def attempt (l : Life) (call : Nat) (delivery : Delivery) (task : HandshakeTask) (c : Connection)
    (effects : List Effect) : Life :=
  { l.become c (.began call :: effects.map .effect) with
    activity := .attempting ⟨call, delivery, task⟩
    ended := none }

/-- Look at a call for the first time: the handshake begins or is refused. -/
def begin (l : Life) (call : Nat) (delivery : Delivery) : Life :=
  let started := l.connection.start l.now
  match started.result with
  | .ok task => l.attempt call delivery task started.connection started.effects
  | .error e => l.conclude call started.connection started.effects (.refused e)

def look (l : Life) (a : Attempt) (timerFirst : Bool) : Life :=
  match l.connection.poll a.task l.now l.ended timerFirst with
  | none => l
  | some o => l.conclude a.call o.connection o.effects (.resolved a.delivery o.result)

def giveUp (l : Life) (a : Attempt) : Life :=
  let (c, effects) := l.connection.giveUp a.task
  l.conclude a.call c effects .cancelled

/-- The farewell is over, or none is needed. -/
def endShutdown (l : Life) (pending : Option StreamId) (farewell : Except Fault Unit) : Life :=
  let (c, effects) := l.connection.endShutdown pending farewell
  { l.become c (effects.map .effect) with activity := .resting }

def beginShutdown (l : Life) : Life :=
  let (_, c, effects) := l.connection.beginShutdown l.ended.isSome
  l.become c (effects.map .effect)

/-- The secured stream that a shutdown has to say farewell to. -/
def farewellTo (l : Life) : Option StreamId :=
  (l.connection.beginShutdown l.ended.isSome).1

/-- Shut the connection down. Only a secured stream makes that wait. -/
def shutdown (l : Life) : Life :=
  match l.farewellTo with
  | some stream => { l.beginShutdown with activity := .closing stream }
  | none => l.beginShutdown.endShutdown none (.ok ())

/-- Drop a pending shutdown, and the stream with it. -/
def leave (l : Life) (stream : StreamId) : Life :=
  { l.become l.connection [.effect (.closed stream)] with activity := .resting }

def discard (l : Life) : Life :=
  { l.become l.connection (l.connection.discard.map .effect) with activity := .gone }

/-- One move. -/
def step (l : Life) (m : Move) : Life :=
  match l.activity, m with
  | _, .pass nanos => { l with now := l.now + nanos }
  | _, .finish result => l.finish result
  | .resting, .set s => l.set s
  | .resting, .initTransport runtime stream role => l.initTransport runtime stream role
  | .resting, .call delivery => l.call delivery
  | .called call delivery, .look _ => l.begin call delivery
  | .called call _, .giveUp => l.conclude call l.connection [] .cancelled
  | .attempting a, .look timerFirst => l.look a timerFirst
  | .attempting a, .giveUp => l.giveUp a
  | .resting, .shutdown => l.shutdown
  | .closing stream, .farewell answer => l.endShutdown (some stream) answer
  | .closing stream, .leave => l.leave stream
  | .resting, .drop => l.discard
  | _, _ => l

def run (l : Life) (moves : List Move) : Life :=
  moves.foldl step l

/-! ## What an operation changes -/

section

variable (l : Life) (c : Connection)

@[simp] theorem become_connection (seen : List Occurrence) : (l.become c seen).connection = c := rfl

@[simp] theorem become_trace (seen : List Occurrence) :
    (l.become c seen).trace = l.trace ++ seen := rfl

/-- The task ends once, and with a result of its own. -/
theorem finish_cases (result : TaskResult) :
    l.finish result = l ∨
      ∃ task, l.task? = some task ∧ l.ended = none ∧ result.isOf task = true ∧
        l.finish result = { l with ended := some result } := by
  unfold Life.finish
  split
  · rename_i task htask hended
    by_cases hof : result.isOf task = true
    · rw [if_pos hof]
      exact Or.inr ⟨task, htask, hended, hof, rfl⟩
    · rw [if_neg hof]
      exact Or.inl rfl
  · exact Or.inl rfl

@[simp] theorem finish_connection (result : TaskResult) :
    (l.finish result).connection = l.connection := by
  rcases l.finish_cases result with heq | ⟨_, -, -, -, heq⟩ <;> rw [heq]

@[simp] theorem finish_activity (result : TaskResult) :
    (l.finish result).activity = l.activity := by
  rcases l.finish_cases result with heq | ⟨_, -, -, -, heq⟩ <;> rw [heq]

@[simp] theorem finish_trace (result : TaskResult) : (l.finish result).trace = l.trace := by
  rcases l.finish_cases result with heq | ⟨_, -, -, -, heq⟩ <;> rw [heq]

@[simp] theorem set_activity (s : Setting) : (l.set s).activity = l.activity := rfl

@[simp] theorem initTransport_activity (runtime : Runtime) (stream : StreamId) (role : Role) :
    (l.initTransport runtime stream role).activity = l.activity := rfl

@[simp] theorem call_activity (delivery : Delivery) :
    (l.call delivery).activity = .called l.calls delivery := rfl

@[simp] theorem conclude_connection (call : Nat) (effects : List Effect) (r : Report) :
    (l.conclude call c effects r).connection = c := rfl

@[simp] theorem conclude_activity (call : Nat) (effects : List Effect) (r : Report) :
    (l.conclude call c effects r).activity = .resting := rfl

@[simp] theorem conclude_trace (call : Nat) (effects : List Effect) (r : Report) :
    (l.conclude call c effects r).trace = l.trace ++ (effects.map .effect ++ r.seen call) := rfl

@[simp] theorem giveUp_activity (a : Attempt) : (l.giveUp a).activity = .resting := rfl

@[simp] theorem endShutdown_activity (pending : Option StreamId) (farewell : Except Fault Unit) :
    (l.endShutdown pending farewell).activity = .resting := rfl

@[simp] theorem leave_activity (stream : StreamId) : (l.leave stream).activity = .resting := rfl

@[simp] theorem discard_activity : l.discard.activity = .gone := rfl

end

/-! ## Runs -/

@[simp] theorem run_nil (l : Life) : l.run [] = l := rfl

@[simp] theorem run_cons (l : Life) (m : Move) (moves : List Move) :
    l.run (m :: moves) = (l.step m).run moves := rfl

theorem run_append (l : Life) (first later : List Move) :
    l.run (first ++ later) = (l.run first).run later := by
  simp [run]

@[simp] theorem step_pass (l : Life) (nanos : Nat) :
    l.step (.pass nanos) = { l with now := l.now + nanos } := by
  simp [Life.step]

@[simp] theorem step_of_finish (l : Life) (result : TaskResult) :
    l.step (.finish result) = l.finish result := by
  simp [Life.step]

/-- A context is found and a server's stream is taken: a new connection becomes ready. -/
def bindingMoves : List Move :=
  [.set (.provider ⟨fun _ => some { server := some { chain := [] } }, false⟩),
    .initTransport .current ⟨0⟩ .server]

/-! ## Steps, case by case -/

/-- What a move can do. -/
inductive Step (l : Life) : Move → Life → Prop where
  /-- The move does not fit, or the look finds nothing decided. -/
  | idle (m : Move) : Step l m l
  | pass (nanos : Nat) : Step l (.pass nanos) { l with now := l.now + nanos }
  | finish {task : HandshakeTask} {result : TaskResult} :
      l.task? = some task → l.ended = none → result.isOf task = true →
      Step l (.finish result) { l with ended := some result }
  | set (s : Setting) : l.activity = .resting → Step l (.set s) (l.set s)
  | initTransport (runtime : Runtime) (stream : StreamId) (role : Role) :
      l.activity = .resting →
      Step l (.initTransport runtime stream role) (l.initTransport runtime stream role)
  | call (delivery : Delivery) : l.activity = .resting → Step l (.call delivery) (l.call delivery)
  /-- The first look finds the connection ready. -/
  | attempt {call : Nat} {delivery : Delivery} {task : HandshakeTask} (first : Bool) :
      l.activity = .called call delivery → (l.connection.start l.now).result = .ok task →
      Step l (.look first) (l.attempt call delivery task (l.connection.start l.now).connection
        (l.connection.start l.now).effects)
  /-- The first look does not find the connection ready. -/
  | refuse {call : Nat} {delivery : Delivery} {e : ConnectionError} (first : Bool) :
      l.activity = .called call delivery → (l.connection.start l.now).result = .error e →
      Step l (.look first) (l.conclude call (l.connection.start l.now).connection
        (l.connection.start l.now).effects (.refused e))
  /-- A later look finds the race decided. -/
  | resolve {a : Attempt} {o : Connection.Outcome Unit} (timerFirst : Bool) :
      l.activity = .attempting a →
      l.connection.poll a.task l.now l.ended timerFirst = some o →
      Step l (.look timerFirst)
        (l.conclude a.call o.connection o.effects (.resolved a.delivery o.result))
  | forget {call : Nat} {delivery : Delivery} :
      l.activity = .called call delivery →
      Step l .giveUp (l.conclude call l.connection [] .cancelled)
  | giveUp {a : Attempt} : l.activity = .attempting a → Step l .giveUp (l.giveUp a)
  /-- A shutdown has to wait for its farewell. -/
  | release {stream : StreamId} :
      l.activity = .resting → l.farewellTo = some stream →
      Step l .shutdown { l.beginShutdown with activity := .closing stream }
  /-- A shutdown has nothing to wait for. -/
  | shut :
      l.activity = .resting → l.farewellTo = none →
      Step l .shutdown (l.beginShutdown.endShutdown none (.ok ()))
  | farewell {stream : StreamId} (answer : Except Fault Unit) :
      l.activity = .closing stream →
      Step l (.farewell answer) (l.endShutdown (some stream) answer)
  | leave {stream : StreamId} : l.activity = .closing stream → Step l .leave (l.leave stream)
  | drop : l.activity = .resting → Step l .drop l.discard

theorem step_finish (l : Life) (result : TaskResult) :
    Step l (.finish result) (l.finish result) := by
  rcases l.finish_cases result with heq | ⟨task, htask, hended, hof, heq⟩
  · rw [heq]
    exact .idle _
  · rw [heq]
    exact .finish htask hended hof

theorem step_begin {l : Life} {call : Nat} {delivery : Delivery} (first : Bool)
    (h : l.activity = .called call delivery) : Step l (.look first) (l.begin call delivery) := by
  unfold Life.begin
  cases hr : (l.connection.start l.now).result with
  | ok task => simpa only [hr] using Step.attempt first h hr
  | error e => simpa only [hr] using Step.refuse first h hr

theorem step_look {l : Life} {a : Attempt} (timerFirst : Bool) (h : l.activity = .attempting a) :
    Step l (.look timerFirst) (l.look a timerFirst) := by
  unfold Life.look
  cases ho : l.connection.poll a.task l.now l.ended timerFirst with
  | none => exact .idle _
  | some o => exact .resolve timerFirst h ho

theorem step_shutdown {l : Life} (h : l.activity = .resting) : Step l .shutdown l.shutdown := by
  unfold Life.shutdown
  cases hpending : l.farewellTo with
  | some stream => exact .release h hpending
  | none => exact .shut h hpending

/-- **Every move is one of the steps.** -/
theorem step_is_step (l : Life) (m : Move) : Step l m (l.step m) := by
  unfold Life.step
  -- The cases stand in the order in which `Life.step` lists them.
  split
  · exact .pass _
  · exact step_finish l _
  · exact .set _ ‹_›
  · exact .initTransport _ _ _ ‹_›
  · exact .call _ ‹_›
  · exact step_begin _ ‹_›
  · exact .forget ‹_›
  · exact step_look _ ‹_›
  · exact .giveUp ‹_›
  · exact step_shutdown ‹_›
  · exact .farewell _ ‹_›
  · exact .leave ‹_›
  · exact .drop ‹_›
  · exact .idle _

/-- **What every step of a run keeps holds at its end.** -/
theorem run_induction {P : Life → Prop} {l : Life} (moves : List Move) (start : P l)
    (keep : ∀ (l l' : Life) (m : Move), m ∈ moves → Step l m l' → P l → P l') :
    P (l.run moves) := by
  -- A run changes its start with every move, so the start is general.
  induction moves generalizing l with
  | nil => exact start
  | cons m moves ih =>
    have hfirst : P (l.step m) :=
      keep l (l.step m) m List.mem_cons_self (step_is_step l m) start
    exact ih hfirst fun l l' m' hm' => keep l l' m' (List.mem_cons_of_mem _ hm')

/-- **What every step keeps of the moves that lead to it holds of a whole run.** -/
theorem history_induction {P : List Move → Prop} {l : Life} (start : P [])
    (keep : ∀ before m, Step (l.run before) m (l.run (before ++ [m])) → P before →
      P (before ++ [m]))
    (moves : List Move) : P moves := by
  -- What holds of the moves made so far goes on to hold, whatever they are.
  have hlater (later before : List Move) (hbefore : P before) : P (before ++ later) := by
    induction later generalizing before with
    | nil => rwa [List.append_nil]
    | cons m later ih =>
      have hnext : Step (l.run before) m (l.run (before ++ [m])) := by
        rw [run_append]
        exact step_is_step (l.run before) m
      rw [List.append_cons]
      exact ih _ (keep before m hnext hbefore)
  exact hlater moves [] start

end Life

end BoundedTls
