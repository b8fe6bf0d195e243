import BoundedTls.Proofs.Connection.Consistency

/-!
# The ledger of a connection

What the runtime keeps for a connection: the handshake tasks that run, the tasks that have ended
with a stream nobody has taken, and the streams that are closed. The ledger is kept from outside,
effect by effect, and does not know who owns a task; the owners are the connection and the call
that waits for its handshake. The ledger agrees with them if every task in it has an owner and
every stream that was given is counted at one place.

## Architecture

- **Ledger**: the tasks and streams of the runtime, and what every effect does to them (`Ledger`).
- **Owners**: the streams that a life holds raw or secured, and the task that it owns.
- **Balance**: `Ledger.Agrees`, and what keeps it when nothing moves or when everything is dropped.
- **Transfers**: of the effects of an operation only those count that concern a task or a stream.
-/

namespace BoundedTls

open BoundedTls.Time

/-! ## The ledger -/

/-- The effect that was seen, if the occurrence is one. -/
def Occurrence.effect? : Occurrence → Option Effect
  | effect e => some e
  | _ => none

/-- The effect concerns a task or a stream. -/
def Effect.isTransfer : Effect → Bool
  | spawned _ | aborted _ | closed _ => true
  | log _ | asked _ _ | prepared _ _ _ | armed _ | notified _ => false

/-- What the runtime keeps for a connection. -/
structure Ledger where
  /-- The handshake tasks that run. -/
  running : List HandshakeTask := []
  /-- The tasks that have ended with a secured stream which nobody has taken. -/
  holding : List HandshakeTask := []
  closed : List StreamId := []

namespace Ledger

/-- A task is dropped: it runs no more, and what it still owns is dropped with it. -/
def cancel (g : Ledger) (task : HandshakeTask) : Ledger :=
  if task ∈ g.running then
    { g with running := g.running.erase task, closed := g.closed ++ [task.stream] }
  else if task ∈ g.holding then
    { g with holding := g.holding.erase task, closed := g.closed ++ [task.stream] }
  else g

/-- What an effect does to the tasks and the streams. -/
def perform (g : Ledger) : Effect → Ledger
  | .spawned task => { g with running := g.running ++ [task] }
  | .aborted task => g.cancel task
  | .closed stream => { g with closed := g.closed ++ [stream] }
  | .log _ | .asked _ _ | .prepared _ _ _ | .armed _ | .notified _ => g

def performAll (g : Ledger) (effects : List Effect) : Ledger :=
  effects.foldl perform g

/-- A task ends. It keeps a stream that it has secured, and drops any other. -/
def settle (g : Ledger) (task : HandshakeTask) (result : TaskResult) : Ledger :=
  match result with
  | .secured _ =>
    { g with running := g.running.erase task, holding := g.holding ++ [task] }
  | .fault _ | .broken _ =>
    { g with running := g.running.erase task, closed := g.closed ++ [task.stream] }

/-- The connection takes a stream that a task has kept. -/
def take (g : Ledger) (stream : StreamId) : Ledger :=
  { g with holding := g.holding.eraseP fun task => task.stream = stream }

end Ledger

/-- The effects that were seen since an earlier state. -/
def Life.since (l' l : Life) : List Effect :=
  (l'.trace.drop l.trace.length).filterMap Occurrence.effect?

/-- The ledger after a life has gone from one state to the next: a task may have ended, a stream
may have appeared in the connection, and effects were seen. -/
def Ledger.follow (g : Ledger) (l l' : Life) : Ledger :=
  let g := match l.task?, l.ended, l'.ended with
    | some task, none, some result => g.settle task result
    | _, _, _ => g
  let g := match l.connection.securedStream, l'.connection.securedStream with
    | none, some stream => g.take stream
    | _, _ => g
  g.performAll (l'.since l)

/-! ## What the owners hold -/

/-- The stream that a connection holds raw. -/
def Connection.unsecuredStream (c : Connection) : Option StreamId :=
  match c.channel.map Channel.stage with
  | some (.raw stream) => some stream
  | _ => none

namespace Life

/-- The stream that is held raw. A connection that was dropped holds nothing. -/
def raw (l : Life) : List StreamId :=
  match l.activity with
  | .gone => []
  | _ => l.connection.unsecuredStream.toList

def secured (l : Life) : List StreamId :=
  match l.activity with
  | .gone => []
  | .closing stream => l.connection.securedStream.toList ++ [stream]
  | _ => l.connection.securedStream.toList

end Life

namespace Life

/-- The task that its owner has to wait for. -/
def runningTask (l : Life) : Option HandshakeTask :=
  match l.ended with
  | none => l.task?
  | some _ => none

/-- The task whose stream its owner has not taken. -/
def holdingTask (l : Life) : Option HandshakeTask :=
  match l.ended with
  | some (.secured _) => l.task?
  | _ => none

variable {l l' : Life}

/-- Nobody owns a task unless a call waits or a deadline has passed. -/
theorem Sound.task_eq_none (h : l.Sound) (hphase : l.connection.phase ≠ .timedOut)
    (hactivity : ∀ a, l.activity ≠ .attempting a) : l.task? = none := by
  have habandoned : l.connection.abandoned = none := by
    simpa [hphase] using h.shaped.abandoned_iff
  unfold task?
  split
  · exact absurd ‹_› (hactivity _)
  · rfl
  · exact habandoned
  · exact habandoned
  · exact habandoned

theorem runningTask_eq_none (h : l.task? = none) : l.runningTask = none := by
  unfold runningTask
  split
  · exact h
  · rfl

theorem holdingTask_eq_none (h : l.task? = none) : l.holdingTask = none := by
  unfold holdingTask
  split
  · exact h
  · rfl

/-- A shutdown takes whatever stream the connection holds. -/
theorem beginShutdown_empty (l : Life) :
    l.beginShutdown.connection.unsecuredStream = none ∧
      l.beginShutdown.connection.securedStream = none := by
  simp only [beginShutdown, become_connection, Connection.beginShutdown,
    Connection.unsecuredStream, Connection.securedStream]
  cases l.connection.channel with
  | none => exact ⟨rfl, rfl⟩
  | some channel => exact ⟨rfl, rfl⟩

end Life

/-! ## Transfers -/

/-- The effects among what was seen that concern a task or a stream. -/
def transfers (seen : List Occurrence) : List Effect :=
  (seen.filterMap Occurrence.effect?).filter Effect.isTransfer

@[simp] theorem transfers_nil : transfers [] = [] := rfl

@[simp] theorem transfers_append (seen later : List Occurrence) :
    transfers (seen ++ later) = transfers seen ++ transfers later := by
  simp [transfers, List.filterMap_append]

theorem effects_map (effects : List Effect) :
    (effects.map .effect).filterMap Occurrence.effect? = effects := by
  have hsome : Occurrence.effect? ∘ Occurrence.effect = some := rfl
  rw [List.filterMap_map, hsome, List.filterMap_some]

@[simp] theorem transfers_effects (effects : List Effect) :
    transfers (effects.map .effect) = effects.filter Effect.isTransfer := by
  rw [transfers, effects_map]

theorem transfers_cons_of_other {o : Occurrence} (h : o.effect? = none) (seen : List Occurrence) :
    transfers (o :: seen) = transfers seen := by
  simp [transfers, h]

/-- A report is no effect. -/
theorem effects_seen (r : Report) (call : Nat) :
    (r.seen call).filterMap Occurrence.effect? = [] := by
  apply List.filterMap_eq_nil_iff.mpr
  intro o ho
  rcases List.mem_append.mp ho with hcallback | hending
  · obtain ⟨outcome, -, rfl⟩ := List.mem_map.mp hcallback
    rfl
  · rw [List.mem_singleton.mp hending]
    split
    · rfl
    · rfl

@[simp] theorem transfers_seen (r : Report) (call : Nat) : transfers (r.seen call) = [] := by
  rw [transfers, effects_seen, List.filter_nil]

/-! ## Balance -/

namespace Ledger

variable {g : Ledger} {given : List StreamId} {l l' : Life}

/-- The ledger holds the tasks that have an owner and no others, and every stream that was given
is counted at one place. -/
structure Agrees (g : Ledger) (given : List StreamId) (l : Life) : Prop where
  running : g.running = l.runningTask.toList
  holding : g.holding = l.holdingTask.toList
  counted : ∀ s, given.count s = l.raw.count s +
    ((g.running ++ g.holding).map HandshakeTask.stream).count s + l.secured.count s +
      g.closed.count s
  /-- A task that has ended with a stream has ended with its own. -/
  own : ∀ task result, l.task? = some task → l.ended = some result → result.isOf task = true

@[simp] theorem performAll_nil (g : Ledger) : g.performAll [] = g := rfl

@[simp] theorem performAll_cons (g : Ledger) (e : Effect) (effects : List Effect) :
    g.performAll (e :: effects) = (g.perform e).performAll effects := rfl

/-- Only the effects that concern a task or a stream count. -/
theorem performAll_filter (g : Ledger) (effects : List Effect) :
    g.performAll (effects.filter Effect.isTransfer) = g.performAll effects := by
  induction effects generalizing g with
  | nil => rfl
  | cons e effects ih =>
    cases e with
    | spawned | aborted | closed => exact ih _
    | log | asked | prepared | armed | notified => exact ih g

/-- Where no task has ended and no stream has appeared, what was transferred tells everything. -/
theorem follow_of_transfers {seen : List Occurrence} (htrace : l'.trace = l.trace ++ seen)
    (hended : l'.ended = l.ended ∨ l'.ended = none)
    (hsecured : l'.connection.securedStream = l.connection.securedStream ∨
      l'.connection.securedStream = none) :
    g.follow l l' = g.performAll (transfers seen) := by
  have hnothing : (match l.task?, l.ended, l'.ended with
      | some task, none, some result => g.settle task result
      | _, _, _ => g) = g := by
    split
    · rcases hended with heq | heq <;> simp_all
    · rfl
  have huntaken : (match l.connection.securedStream, l'.connection.securedStream with
      | none, some stream => g.take stream
      | _, _ => g) = g := by
    split
    · rcases hsecured with heq | heq <;> simp_all
    · rfl
  simp only [follow, hnothing, huntaken, Life.since, htrace, List.drop_left]
  exact (performAll_filter g _).symm

theorem Agrees.of_transfers {seen : List Occurrence} (htrace : l'.trace = l.trace ++ seen)
    (hended : l'.ended = l.ended ∨ l'.ended = none)
    (hsecured : l'.connection.securedStream = l.connection.securedStream ∨
      l'.connection.securedStream = none)
    (h : (g.performAll (transfers seen)).Agrees given l') : (g.follow l l').Agrees given l' := by
  rw [follow_of_transfers htrace hended hsecured]
  exact h

/-- The ledger stays as it is when nothing moves. -/
theorem Agrees.quiet (h : g.Agrees given l) (htask : l'.task? = l.task?)
    (hended : l'.ended = l.ended) (hraw : l'.raw = l.raw) (hsecured : l'.secured = l.secured) :
    g.Agrees given l' where
  running := by simpa only [Life.runningTask, htask, hended] using h.running
  holding := by simpa only [Life.holdingTask, htask, hended] using h.holding
  counted := fun s => by rw [hraw, hsecured]; exact h.counted s
  own := by rw [htask, hended]; exact h.own

/-- A step that moves nothing keeps the balance. -/
theorem Agrees.unmoved (h : g.Agrees given l) {seen : List Occurrence}
    (htrace : l'.trace = l.trace ++ seen) (htransfers : transfers seen = [])
    (hended : l'.ended = l.ended)
    (hstream : l'.connection.securedStream = l.connection.securedStream ∨
      l'.connection.securedStream = none)
    (htask : l'.task? = l.task?) (hraw : l'.raw = l.raw) (hsecured : l'.secured = l.secured) :
    (g.follow l l').Agrees given l' := by
  refine .of_transfers htrace (Or.inl hended) hstream ?_
  rw [htransfers]
  exact h.quiet htask hended hraw hsecured

/-- Without an owner there is no task. -/
theorem Agrees.no_task (h : g.Agrees given l) (htask : l.task? = none) :
    g.running = [] ∧ g.holding = [] := by
  rw [h.running, h.holding, Life.runningTask_eq_none htask, Life.holdingTask_eq_none htask]
  exact ⟨rfl, rfl⟩

/-- Dropping the task that has an owner leaves no task, and closes what it owned. -/
theorem Agrees.cancel (h : g.Agrees given l) {task : HandshakeTask} (htask : l.task? = some task) :
    (g.cancel task).running = [] ∧ (g.cancel task).holding = [] ∧ ∀ s,
      (g.cancel task).closed.count s =
        ((g.running ++ g.holding).map HandshakeTask.stream).count s + g.closed.count s := by
  have hrunning := h.running
  have hholding := h.holding
  unfold Life.runningTask at hrunning
  unfold Life.holdingTask at hholding
  unfold Ledger.cancel
  cases hended : l.ended with
  | none => simp_all [Nat.add_comm]
  | some result =>
    cases result with
    | secured stream => simp_all [Nat.add_comm]
    | fault fault => simp_all
    | broken cause => simp_all

/-- A step that drops all that the connection holds closes all of it. -/
theorem Agrees.emptied (h : g.Agrees given l) {moved : List Effect}
    (hmoved : moved = l.task?.toList.map .aborted ++ (l.raw ++ l.secured).map .closed)
    (htask : l'.task? = none) (hraw : l'.raw = []) (hsecured : l'.secured = []) :
    (g.performAll moved).Agrees given l' := by
  have hclose (g : Ledger) (streams : List StreamId) :
      g.performAll (streams.map .closed) = { g with closed := g.closed ++ streams } := by
    induction streams generalizing g with
    | nil => simp
    | cons s streams ih => simp [ih, perform]
  -- First the task goes, then the streams that the connection holds itself.
  obtain ⟨dropped, hdropped, hrunning, hholding, hcount⟩ :
      ∃ dropped : Ledger, g.performAll (l.task?.toList.map .aborted) = dropped ∧
        dropped.running = [] ∧ dropped.holding = [] ∧ ∀ s, dropped.closed.count s =
          ((g.running ++ g.holding).map HandshakeTask.stream).count s + g.closed.count s := by
    cases htask : l.task? with
    | none =>
      obtain ⟨hrunning, hholding⟩ := h.no_task htask
      exact ⟨g, rfl, hrunning, hholding, by simp [hrunning, hholding]⟩
    | some task => exact ⟨g.cancel task, rfl, h.cancel htask⟩
  have hafter : g.performAll moved =
      { dropped with closed := dropped.closed ++ (l.raw ++ l.secured) } := by
    rw [hmoved, performAll, List.foldl_append, ← hclose, ← hdropped]
    rfl
  rw [hafter]
  refine ⟨by simp [hrunning, Life.runningTask_eq_none htask],
    by simp [hholding, Life.holdingTask_eq_none htask], fun s => ?_, by simp [htask]⟩
  have hbefore := h.counted s
  simp only [hraw, hsecured, hrunning, hholding, List.count_append, hcount, List.append_nil,
    List.map_nil, List.count_nil] at hbefore ⊢
  simp only [List.map_append, List.count_append] at hbefore ⊢
  omega

end Ledger

/-! ## What the operations transfer -/

namespace Connection

variable {c : Connection}

/-- A stream that the connection does not take is closed, and one that it takes is held raw. -/
theorem initTransport_transfers (c : Connection) (now : Instant) (runtime : Runtime)
    (stream : StreamId) (role : Role) :
    (∃ e, (c.initTransport now runtime stream role).result = .error e ∧
      (c.initTransport now runtime stream role).connection = c ∧
      (c.initTransport now runtime stream role).effects.filter Effect.isTransfer =
        [.closed stream]) ∨
    (c.phase = .idle ∧ (c.initTransport now runtime stream role).result = .ok () ∧
      (c.initTransport now runtime stream role).connection.unsecuredStream = some stream ∧
      (c.initTransport now runtime stream role).connection.securedStream = none ∧
      (c.initTransport now runtime stream role).connection.abandoned = c.abandoned ∧
      (c.initTransport now runtime stream role).effects.filter Effect.isTransfer = []) := by
  unfold initTransport
  split
  · exact Or.inl ⟨_, rfl, rfl, rfl⟩
  · rename_i hidle
    split
    · exact Or.inl ⟨_, rfl, rfl, rfl⟩
    · simp only
      split
      · exact Or.inl ⟨_, rfl, rfl, rfl⟩
      · exact Or.inr ⟨Classical.not_not.mp hidle, rfl, rfl, rfl, rfl, rfl⟩

/-- A handshake that begins takes the raw stream into a new task. -/
theorem start_transfers (h : c.Shaped) {now : Instant} {task : HandshakeTask}
    (hok : (c.start now).result = .ok task) :
    c.phase = .ready ∧ c.unsecuredStream = some task.stream ∧
      (c.start now).connection.channel.map Channel.stage = some .handshaking ∧
      (c.start now).effects.filter Effect.isTransfer = [.spawned task] := by
  obtain ⟨hready, -⟩ := phase_of_start_ok h hok
  obtain ⟨role, runtime, context, stream, deadline, hsupports, hrole, hruntime, hchannel, htimer,
    -⟩ := h.of_ready hready
  have htask : task = ⟨stream, (Channel.mk context (.raw stream)).side role⟩ := by
    simpa [start, hready, hrole, hruntime, hchannel, htimer, Channel.startHandshake, hsupports]
      using hok.symm
  subst htask
  refine ⟨hready, by simp [unsecuredStream, hchannel], ?_, ?_⟩
  · simp [start, hready, hrole, hruntime, hchannel, htimer, Channel.startHandshake, hsupports]
  · cases hpreparer : c.preparer with
    | none =>
      simp [start, hready, hrole, hruntime, hchannel, htimer, Channel.startHandshake, hsupports,
        hpreparer, List.filter_cons, Effect.isTransfer]
    | some preparer =>
      simp [start, hready, hrole, hruntime, hchannel, htimer, Channel.startHandshake, hsupports,
        hpreparer, Channel.raw?, List.filter_cons, Effect.isTransfer]

/-- The stream for setting options is the raw one or the secured one. -/
theorem rawStream_toList (c : Connection) :
    c.rawStream.toList = c.unsecuredStream.toList ++ c.securedStream.toList := by
  unfold rawStream unsecuredStream securedStream
  cases c.channel with
  | none => rfl
  | some channel =>
    obtain ⟨context, stage⟩ := channel
    cases stage <;> rfl

/-- A connection that is dropped drops its abandoned handshake and its stream. -/
theorem discard_transfers (c : Connection) :
    c.discard.filter Effect.isTransfer = c.abandoned.toList.map .aborted ++
      (c.unsecuredStream.toList ++ c.securedStream.toList).map .closed := by
  rw [← rawStream_toList]
  apply List.filter_eq_self.mpr
  intro e he
  simp only [discard, List.mem_append, List.mem_map] at he
  rcases he with ⟨task, -, rfl⟩ | ⟨stream, -, rfl⟩
  · rfl
  · rfl

/-- A shutdown that has nothing to wait for drops the same. -/
theorem beginShutdown_transfers (lateEnded : Bool) (hnone : (releaseStream c.channel).1 = none) :
    (c.beginShutdown lateEnded).2.2.filter Effect.isTransfer =
      c.abandoned.toList.map .aborted ++
        (c.unsecuredStream.toList ++ c.securedStream.toList).map .closed := by
  have hreleased : (releaseStream c.channel).2.filter Effect.isTransfer =
      (c.unsecuredStream.toList ++ c.securedStream.toList).map .closed := by
    unfold releaseStream unsecuredStream securedStream at *
    cases hchannel : c.channel with
    | none => rfl
    | some channel =>
      obtain ⟨context, stage⟩ := channel
      cases stage with
      | raw | handshaking | closed => rfl
      | secure stream => simp [hchannel] at hnone
  simp only [beginShutdown, List.filter_append, hreleased]
  cases c.abandoned with
  | none => rfl
  | some task => cases lateEnded <;> rfl

/-- A shutdown that has to wait for its farewell keeps hold of the stream. -/
theorem beginShutdown_waiting (h : c.Shaped) (lateEnded : Bool) {stream : StreamId}
    (hpending : (releaseStream c.channel).1 = some stream) :
    (c.beginShutdown lateEnded).2.2.filter Effect.isTransfer = [] ∧ c.abandoned = none ∧
      c.unsecuredStream = none ∧ c.securedStream = some stream := by
  obtain ⟨handle, role, runtime, channel, timer, timeout, phase, abandoned, preparer, provider⟩ := c
  cases h with
  | established => cases hpending; exact ⟨rfl, rfl, rfl, rfl⟩
  | _ => cases hpending

/-- While a handshake runs, and after a shutdown, a connection holds nothing. -/
theorem Shaped.empty (h : c.Shaped) (hphase : c.phase = .handshaking ∨ c.phase = .shutdown) :
    c.abandoned = none ∧ c.unsecuredStream = none ∧ c.securedStream = none := by
  obtain ⟨handle, role, runtime, channel, timer, timeout, phase, abandoned, preparer, provider⟩ := c
  cases h with
  | handshaking | unused | shutdown => exact ⟨rfl, rfl, rfl⟩
  | _ => simp at hphase

/-- The outcome of a race transfers nothing by itself. -/
theorem conclude_transfers (c : Connection) (result : TaskResult) :
    (c.conclude result).effects.filter Effect.isTransfer = [] := by
  cases result <;> rfl

end Connection

end BoundedTls
