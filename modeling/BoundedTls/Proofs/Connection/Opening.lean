import BoundedTls.Proofs.Connection.Emission
import BoundedTls.Proofs.Connection.Order
import BoundedTls.Proofs.Connection.Transport

/-!
# How a handshake is opened

The owner of a connection names somebody who supplies its context and somebody who prepares its
stream, and may name others at any time. The provider is asked once by every binding that finds the
connection idle; the preparer is called once, by the look that begins the handshake, with the stream
that the connection was bound to, before the deadline is set and before there is a task.

## Architecture

- **Openings**: what the start of a handshake does, in order (`Connection.start_effects`).
- **Laws**: what every move adds to the calls of the handlers (`Life.consulted_step`) and to the
  openings of handshakes (`Life.opening_step`).
- **Histories**: a connection that was opened was bound before, and is opened once
  (`Life.OpenedBy`).
-/

namespace BoundedTls

open BoundedTls.Time

/-- The effect belongs to the beginning of a handshake. -/
def Effect.isOpening (e : Effect) : Bool :=
  e.origin? = some .handshake

/-- The phases before a handshake. -/
def Phase.IsEarly (p : Phase) : Prop :=
  p = .idle ∨ p = .ready

/-- No edge leads back to before a handshake. -/
theorem Phase.Edge.early {m : Move} {p q : Phase} (edge : Phase.Edge m p q) (h : q.IsEarly) :
    p.IsEarly := by
  cases edge with
  | bind => exact Or.inl rfl
  | begin | establish | fail | expire | shut | farewell => rcases h with h | h <;> cases h

namespace Connection

variable {c c' : Connection} {now : Instant}

/-! ## Openings -/

/-- The call of the preparer that is named when a handshake begins. -/
def preparation (c : Connection) : List Effect :=
  match c.phase, c.preparer, c.rawStream with
  | .ready, some preparer, some stream => [.prepared c.handle stream preparer]
  | _, _, _ => []

theorem preparation_of_not_ready (h : c.phase ≠ .ready) : c.preparation = [] := by
  unfold preparation
  split
  · contradiction
  · rfl

/-- The effects with which a handshake begins: the stream is prepared, the deadline is set, and then
there is a task. -/
def opening (c : Connection) (now : Instant) (task : HandshakeTask) : List Effect :=
  c.preparation ++ [.armed (deadlineAfter now c.timeout), .spawned task]

/-- A preparer who is named is called first. -/
theorem opening_of_preparer (hready : c.phase = .ready) {preparer : StreamPreparer}
    (hpreparer : c.preparer = some preparer) {task : HandshakeTask}
    (hstream : c.rawStream = some task.stream) :
    c.opening now task = .prepared c.handle task.stream preparer ::
      [.armed (deadlineAfter now c.timeout), .spawned task] := by
  simp [opening, preparation, hready, hpreparer, hstream]

/-- As long as a connection is ready it has the same stream. -/
theorem Turn.raw_of_ready (turn : Turn c c') (h : c.Shaped) (hbefore : c.phase = .ready)
    (hafter : c'.phase = .ready) : c'.rawStream = c.rawStream := by
  cases turn with
  | stay => rfl
  | set s => simp [rawStream]
  | bind _ _ _ hidle =>
    rw [hbefore] at hidle
    cases hidle
  | conclude _ hphase | expire _ _ hphase =>
    rw [hbefore] at hphase
    cases hphase
  | release hpending =>
    have hphase := (released_pending h hpending).1
    rw [hbefore] at hphase
    cases hphase
  | begin | shut | farewell => cases hafter

theorem start_effects (h : c.Shaped) (hready : c.phase = .ready) (now : Instant) :
    ∃ role task, (c.start now).result = .ok task ∧ c.rawStream = some task.stream ∧
      (c.start now).effects = c.opening now task ++
        [.log (.handshakeStarted c.handle role c.timeout.millis64)] := by
  obtain ⟨role, runtime, context, stream, deadline, hsupports, hrole, hruntime, hchannel, htimer,
    -⟩ := h.of_ready hready
  refine ⟨role, ⟨stream, (Channel.mk context (.raw stream)).side role⟩, ?_, ?_, ?_⟩
  · simp [start, hready, hrole, hruntime, hchannel, htimer, Channel.startHandshake, hsupports]
  · simp [rawStream, hchannel, Channel.raw?]
  · cases hpreparer : c.preparer with
    | none =>
      simp [start, opening, preparation, hready, hrole, hruntime, hchannel, htimer, hpreparer,
        Channel.startHandshake, hsupports, Timer.expiresAfter]
    | some preparer =>
      simp [start, opening, preparation, hready, hrole, hruntime, hchannel, htimer, hpreparer,
        rawStream, Channel.raw?, Channel.startHandshake, hsupports, Timer.expiresAfter]

theorem opening_isOpening (c : Connection) (now : Instant) (task : HandshakeTask) :
    (c.opening now task).filter Effect.isOpening = c.opening now task := by
  apply List.filter_eq_self.mpr
  intro e he
  simp only [opening, preparation, List.mem_append, List.mem_cons, List.not_mem_nil, or_false]
    at he
  rcases he with hprepared | rfl | rfl
  · split at hprepared
    · rw [List.mem_singleton.mp hprepared]
      rfl
    · cases hprepared
  · rfl
  · rfl

/-- The owner of a secured stream can look at it. -/
theorem raw_of_secured {stream : StreamId} (h : c.securedStream = some stream) :
    c.rawStream = some stream := by
  unfold securedStream at h
  unfold rawStream
  obtain ⟨channel, hchannel, hsecure⟩ := Option.bind_eq_some_iff.mp h
  rw [hchannel]
  unfold Channel.secure? at hsecure
  split at hsecure
  · rename_i hstage
    rw [← hsecure]
    simp [Channel.raw?, hstage]
  · cases hsecure

theorem opening_isCall (c : Connection) (now : Instant) (task : HandshakeTask) :
    (c.opening now task).filter Effect.isCall = c.preparation := by
  unfold opening preparation
  split <;> rfl

end Connection

namespace Life

variable {l l' : Life} {m : Move}

/-! ## Laws -/

/-- The effects that were seen, oldest first. -/
def effects (l : Life) : List Effect :=
  l.trace.filterMap Occurrence.effect?

/-- The calls of the owner's handlers, oldest first. -/
def consulted (l : Life) : List Effect :=
  l.effects.filter Effect.isCall

/-- What was seen of handshakes that begin. -/
def opening (l : Life) : List Effect :=
  l.effects.filter Effect.isOpening

/-- The effects of a move that moves of other kinds do not have. -/
def issues (l : Life) : Move → List Effect
  | .initTransport runtime stream role =>
    match l.activity with
    | .resting => (l.connection.initTransport l.now runtime stream role).effects
    | _ => []
  | .look _ =>
    match l.activity with
    | .called _ _ => (l.connection.start l.now).effects
    | _ => []
  | .shutdown =>
    match l.activity with
    | .resting => (l.connection.beginShutdown l.ended.isSome).2.2
    | _ => []
  | _ => []

theorem effects_since (s : Step l m l') : l'.effects = l.effects ++ l'.since l := by
  obtain ⟨seen, htrace⟩ := trace_step s
  rw [effects, Life.since, htrace, List.drop_left, List.filterMap_append]
  rfl

theorem spawned_mem_iff {task : HandshakeTask} :
    .effect (.spawned task) ∈ l.trace ↔ .spawned task ∈ l.opening := by
  simp only [opening, effects, List.mem_filter, List.mem_filterMap]
  constructor
  · intro hseen
    exact ⟨⟨_, hseen, rfl⟩, rfl⟩
  · rintro ⟨⟨o, ho, heffect⟩, -⟩
    cases o with
    | effect e => exact Option.some.inj heffect ▸ ho
    | bound | called | began | calledBack | returned | dropped => cases heffect

/-- Only three kinds of moves issue anything, and only where they fit. -/
theorem issues_of_misfit
    (hbind : ∀ runtime stream role, l.activity = .resting →
      m ≠ .initTransport runtime stream role)
    (hlook : ∀ call delivery first, l.activity = .called call delivery → m ≠ .look first)
    (hshut : l.activity = .resting → m ≠ .shutdown) : l.issues m = [] := by
  cases m with
  | initTransport runtime stream role =>
    simp only [issues]
    split
    · exact absurd rfl (hbind runtime stream role ‹_›)
    · rfl
  | look first =>
    simp only [issues]
    split
    · exact absurd rfl (hlook _ _ first ‹_›)
    · rfl
  | shutdown =>
    simp only [issues]
    split
    · exact absurd rfl (hshut ‹_›)
    · rfl
  | set | call | giveUp | farewell | leave | drop | pass | finish => rfl

section

variable (l : Life)

theorem become_effects (c : Connection) (seen : List Occurrence) :
    (l.become c seen).effects = l.effects ++ seen.filterMap Occurrence.effect? :=
  List.filterMap_append ..

@[simp] theorem finish_effects (result : TaskResult) : (l.finish result).effects = l.effects := by
  simp [effects]

@[simp] theorem set_effects (s : Setting) :
    (l.set s).effects = l.effects ++ (s.put l.connection).2 := by
  rw [Life.set, become_effects, effects_map]

@[simp] theorem initTransport_effects (runtime : Runtime) (stream : StreamId) (role : Role) :
    (l.initTransport runtime stream role).effects =
      l.effects ++ (l.connection.initTransport l.now runtime stream role).effects := by
  rw [Life.initTransport, become_effects, List.filterMap_append, effects_map]
  simp [Occurrence.effect?]

@[simp] theorem call_effects (delivery : Delivery) : (l.call delivery).effects = l.effects := by
  simp [effects, Life.call, Occurrence.effect?]

@[simp] theorem conclude_effects (call : Nat) (c : Connection) (added : List Effect) (r : Report) :
    (l.conclude call c added r).effects = l.effects ++ added := by
  rw [effects, conclude_trace, List.filterMap_append, List.filterMap_append, effects_map,
    effects_seen, List.append_nil]
  rfl

@[simp] theorem attempt_effects (call : Nat) (delivery : Delivery) (task : HandshakeTask)
    (c : Connection) (added : List Effect) :
    (l.attempt call delivery task c added).effects = l.effects ++ added := by
  have hbegan : (Occurrence.began call :: added.map .effect).filterMap Occurrence.effect? =
      added := by
    rw [List.filterMap_cons_none rfl, effects_map]
  rw [effects, Life.attempt, become_trace, List.filterMap_append, hbegan]
  rfl

@[simp] theorem begin_effects (call : Nat) (delivery : Delivery) :
    (l.begin call delivery).effects = l.effects ++ (l.connection.start l.now).effects := by
  unfold Life.begin
  simp only
  split
  · exact attempt_effects ..
  · exact conclude_effects ..

@[simp] theorem beginShutdown_effects :
    l.beginShutdown.effects =
      l.effects ++ (l.connection.beginShutdown l.ended.isSome).2.2 := by
  rw [Life.beginShutdown, become_effects, effects_map]

@[simp] theorem endShutdown_effects (pending : Option StreamId) (farewell : Except Fault Unit) :
    (l.endShutdown pending farewell).effects =
      l.effects ++ (l.connection.endShutdown pending farewell).2 := by
  have hshown : (l.endShutdown pending farewell).effects =
      (l.become (l.connection.endShutdown pending farewell).1
        ((l.connection.endShutdown pending farewell).2.map .effect)).effects := rfl
  rw [hshown, become_effects, effects_map]

/-- Ending a shutdown that waits for nothing is not seen. -/
@[simp] theorem shutdown_effects :
    l.shutdown.effects = l.effects ++ (l.connection.beginShutdown l.ended.isSome).2.2 := by
  unfold Life.shutdown
  split
  · exact l.beginShutdown_effects
  · rw [endShutdown_effects, beginShutdown_effects]
    exact List.append_nil _

@[simp] theorem leave_effects (stream : StreamId) :
    (l.leave stream).effects = l.effects ++ [.closed stream] := by
  simp [effects, Life.leave, Life.become, Occurrence.effect?]

@[simp] theorem discard_effects : l.discard.effects = l.effects ++ l.connection.discard := by
  have hshown : l.discard.effects =
      (l.become l.connection (l.connection.discard.map .effect)).effects := rfl
  rw [hshown, become_effects, effects_map]

end

/-- What a call of another kind has as effects is of no operation in particular. -/
theorem look_effects (h : l.Sound) {a : Attempt} (hactivity : l.activity = .attempting a)
    (timerFirst : Bool) : ∃ added, (l.look a timerFirst).effects = l.effects ++ added ∧
      ∀ e ∈ added, e.origin? = none := by
  unfold Life.look
  cases hpoll : l.connection.poll a.task l.now l.ended timerFirst with
  | none => exact ⟨[], (List.append_nil _).symm, by simp⟩
  | some o =>
    refine ⟨o.effects, conclude_effects .., fun e he => ?_⟩
    exact Connection.poll_origin h.shaped (h.attempting a hactivity) hpoll he

/-- **Effects that are of one kind of move only are seen of moves of this kind.** -/
theorem filter_step (h : l.Sound) {p : Effect → Bool}
    (hp : ∀ e, e.origin? = none → p e = false) (m : Move) :
    (l.step m).effects.filter p = l.effects.filter p ++ (l.issues m).filter p := by
  have hquiet {added : List Effect} (hall : ∀ e ∈ added, e.origin? = none) :
      (l.effects ++ added).filter p = l.effects.filter p ++ [] := by
    rw [List.filter_append]
    congr 1
    apply List.filter_eq_nil_iff.mpr
    intro e he
    simp [hp e (hall e he)]
  unfold Life.step
  split
  · exact (List.append_nil _).symm
  · rw [finish_effects]
    exact (List.append_nil _).symm
  · rw [set_effects]
    exact hquiet fun _ => Connection.put_origin
  · simp [issues, *]
  · rw [call_effects]
    exact (List.append_nil _).symm
  · simp [issues, *]
  · rw [conclude_effects]
    exact hquiet (by simp)
  · obtain ⟨added, heffects, hall⟩ := look_effects h ‹_› _
    rw [heffects]
    simp only [issues, *]
    exact hquiet hall
  · rw [Life.giveUp, conclude_effects]
    exact hquiet (by simp [Connection.giveUp, Effect.origin?])
  · simp [issues, *]
  · rw [endShutdown_effects]
    exact hquiet fun _ => Connection.endShutdown_origin
  · rw [leave_effects]
    exact hquiet (by simp [Effect.origin?])
  · rw [discard_effects]
    exact hquiet fun _ => Connection.discard_origin
  · -- A move that does not fit issues nothing.
    rw [issues_of_misfit]
    · exact (List.append_nil _).symm
    · assumption
    · assumption
    · assumption

/-! ## Handlers -/

/-- The calls of the owner's handlers that a move makes. -/
def consults (l : Life) : Move → List Effect
  | .initTransport _ _ _ =>
    match l.activity with
    | .resting => l.connection.calls
    | _ => []
  | .look _ =>
    match l.activity with
    | .called _ _ => l.connection.preparation
    | _ => []
  | _ => []

theorem start_calls (h : l.Sound) (now : Instant) :
    (l.connection.start now).effects.filter Effect.isCall = l.connection.preparation := by
  by_cases hready : l.connection.phase = .ready
  · obtain ⟨role, task, -, -, heffects⟩ := Connection.start_effects h.shaped hready now
    rw [heffects, List.filter_append, Connection.opening_isCall]
    exact List.append_nil _
  · rw [Connection.start_of_not_ready hready, Connection.preparation_of_not_ready hready]
    rfl

/-- **Every handler is called by its own move and by no other.** -/
theorem consulted_step (h : l.Sound) (m : Move) :
    (l.step m).consulted = l.consulted ++ l.consults m := by
  have hcalls : (l.issues m).filter Effect.isCall = l.consults m := by
    cases m with
    | initTransport runtime stream role =>
      simp only [issues, consults]
      split
      · exact (Connection.initTransport_atomic ..).calls
      · rfl
    | look first =>
      simp only [issues, consults]
      split
      · exact start_calls h l.now
      · rfl
    | shutdown =>
      simp only [issues, consults]
      split
      · apply List.filter_eq_nil_iff.mpr
        intro e he
        rcases Connection.beginShutdown_origin he with horigin | horigin <;>
          cases e <;> simp [Effect.origin?, Effect.isCall] at horigin ⊢
      · rfl
    | set | call | giveUp | farewell | leave | drop | pass | finish => rfl
  rw [← hcalls]
  refine filter_step h ?_ m
  intro e horigin
  cases e <;> simp [Effect.origin?, Effect.isCall] at horigin ⊢

theorem since_calls (h : l.Sound) (m : Move) :
    ((l.step m).since l).filter Effect.isCall = l.consults m := by
  have hstep := consulted_step h m
  rw [consulted, effects_since (step_is_step l m), List.filter_append] at hstep
  exact List.append_cancel_left hstep

/-- A preparer is called by the connection that names it, when it is ready. -/
theorem prepared_since (h : l.Sound) {handle : Handle} {stream : StreamId}
    {preparer : StreamPreparer}
    (hprepared : .prepared handle stream preparer ∈ (l.step m).since l) :
    l.connection.phase = .ready ∧ l.connection.preparer = some preparer := by
  have hmem : .prepared handle stream preparer ∈ l.consults m := by
    rw [← since_calls h m]
    exact List.mem_filter.mpr ⟨hprepared, rfl⟩
  unfold consults at hmem
  split at hmem
  · split at hmem
    · -- A binding asks the provider.
      simp only [Connection.calls] at hmem
      split at hmem <;> simp at hmem
    · cases hmem
  · split at hmem
    · simp only [Connection.preparation] at hmem
      split at hmem
      · cases List.mem_singleton.mp hmem
        exact ⟨‹_›, ‹_›⟩
      · cases hmem
    · cases hmem
  · cases hmem

/-! ## Openings of handshakes -/

/-- The move takes the stream, with a context that serves the role. -/
structure Takes (l : Life) (m : Move) (stream : StreamId) : Prop where
  resting : l.activity = .resting
  idle : l.connection.phase = .idle
  bound : ∃ runtime role context, m = .initTransport runtime stream role ∧
    l.connection.Supplied context ∧ context.supports role = true

/-- The move is the first look at a call, which finds the connection ready and starts the task. -/
structure Opens (l : Life) (m : Move) (task : HandshakeTask) : Prop where
  look : ∃ first, m = .look first
  called : ∃ call delivery, l.activity = .called call delivery
  ready : l.connection.phase = .ready
  started : (l.connection.start l.now).result = .ok task
  stream : l.connection.rawStream = some task.stream

/-- **A handshake is opened by the look that finds the connection ready.** -/
theorem opening_step (h : l.Sound) (m : Move) :
    (l.step m).opening = l.opening ∨
      ∃ task, l.Opens m task ∧
        (l.step m).opening = l.opening ++ l.connection.opening l.now task := by
  have hstep : (l.step m).opening = l.opening ++ (l.issues m).filter Effect.isOpening := by
    refine filter_step h ?_ m
    intro e horigin
    simp [Effect.isOpening, horigin]
  have hquiet (hnone : ∀ e ∈ l.issues m, e.origin? ≠ some .handshake) :
      (l.step m).opening = l.opening := by
    have hfilter : (l.issues m).filter Effect.isOpening = [] := by
      apply List.filter_eq_nil_iff.mpr
      intro e he
      simp [Effect.isOpening, hnone e he]
    rw [hstep, hfilter, List.append_nil]
  cases m with
  | initTransport runtime stream role =>
    refine Or.inl (hquiet fun e he => ?_)
    simp only [issues] at he
    split at he
    · rcases Connection.initTransport_origin he with horigin | horigin <;> simp [horigin]
    · cases he
  | shutdown =>
    refine Or.inl (hquiet fun e he => ?_)
    simp only [issues] at he
    split at he
    · rcases Connection.beginShutdown_origin he with horigin | horigin <;> simp [horigin]
    · cases he
  | look first =>
    by_cases hcalled : ∃ call delivery, l.activity = .called call delivery
    · obtain ⟨call, delivery, hactivity⟩ := hcalled
      have hissues : l.issues (.look first) = (l.connection.start l.now).effects := by
        simp [issues, hactivity]
      by_cases hready : l.connection.phase = .ready
      · obtain ⟨role, task, hok, hstream, heffects⟩ :=
          Connection.start_effects h.shaped hready l.now
        refine Or.inr ⟨task, ⟨⟨first, rfl⟩, ⟨call, delivery, hactivity⟩, hready, hok, hstream⟩, ?_⟩
        rw [hstep, hissues, heffects, List.filter_append, Connection.opening_isOpening]
        simp [Effect.isOpening, Effect.origin?]
      · refine Or.inl (hquiet fun e he => ?_)
        rw [hissues, Connection.start_of_not_ready hready] at he
        cases he
    · refine Or.inl (hquiet fun e he => ?_)
      simp only [issues] at he
      split at he
      · exact absurd ⟨_, _, ‹_›⟩ hcalled
      · cases he
  | set | call | giveUp | farewell | leave | drop | pass | finish =>
    refine Or.inl (hquiet fun e he => ?_)
    cases he

/-- A handshake that is opened is under way. -/
theorem Opens.handshaking {task : HandshakeTask} (ho : l.Opens m task) (h : l.Sound) :
    (l.step m).connection.phase = .handshaking := by
  obtain ⟨⟨first, rfl⟩, ⟨call, delivery, hactivity⟩, hready, -, -⟩ := ho
  obtain ⟨_, _, _, -, -, -, hok, hracing⟩ := Connection.start_of_ready h.shaped hready l.now
  simp only [Life.step, hactivity, Life.begin, hok, Life.attempt, become_connection, hracing]
  rfl

/-- What is seen of a handshake that is opened starts with its opening. -/
theorem Opens.since {task : HandshakeTask} (ho : l.Opens m task) (h : l.Sound) :
    ∃ later, (l.step m).since l = l.connection.opening l.now task ++ later := by
  obtain ⟨⟨first, rfl⟩, ⟨call, delivery, hactivity⟩, hready, hok, -⟩ := ho
  obtain ⟨role, task', hok', -, heffects⟩ := Connection.start_effects h.shaped hready l.now
  obtain rfl : task' = task := Except.ok.inj (hok'.symm.trans hok)
  have hstep : (l.step (.look first)).effects =
      l.effects ++ (l.connection.start l.now).effects := by
    simp only [Life.step, hactivity, begin_effects]
  rw [effects_since (step_is_step l _), heffects] at hstep
  exact ⟨_, List.append_cancel_left hstep⟩

/-- A task is started by the opening of its handshake. -/
theorem spawned_opens (h : l.Sound) {task : HandshakeTask}
    (hspawned : .effect (.spawned task) ∈ (l.step m).trace) :
    .effect (.spawned task) ∈ l.trace ∨ l.Opens m task := by
  rw [spawned_mem_iff] at hspawned ⊢
  rcases opening_step h m with hsame | ⟨task', hopens, hopening⟩
  · exact Or.inl (hsame ▸ hspawned)
  · rw [hopening, List.mem_append] at hspawned
    refine hspawned.imp_right fun hnew => ?_
    have hspawns : task = task' := by
      simp only [Connection.opening, Connection.preparation, List.mem_append, List.mem_cons,
        List.not_mem_nil, or_false] at hnew
      rcases hnew with hprepared | harmed | hsame
      · split at hprepared <;> simp at hprepared
      · cases harmed
      · exact Effect.spawned.inj hsame
    exact hspawns ▸ hopens

/-- A handshake that was begun stays so. -/
theorem early_step (h : l.Sound) (s : Step l m l') (hearly : l'.connection.phase.IsEarly) :
    l.connection.phase.IsEarly := by
  rcases edge_step h s with hsame | hedge
  · rwa [hsame] at hearly
  · exact hedge.early hearly

/-- A connection that is idle or ready has no handshake behind it. -/
theorem unopened_step (h : l.Sound) (hunopened : l.connection.phase.IsEarly → l.opening = [])
    (m : Move) (hearly : (l.step m).connection.phase.IsEarly) : (l.step m).opening = [] := by
  rcases opening_step h m with hsame | ⟨task, hopens, -⟩
  · rw [hsame]
    exact hunopened (early_step h (step_is_step l m) hearly)
  · rw [hopens.handshaking h] at hearly
    rcases hearly with hidle | hready
    · cases hidle
    · cases hready

/-- A ready connection has its stream from before, or takes it by this step. -/
theorem taking_step (h : l.Sound) (s : Step l m l') (hready : l'.connection.phase = .ready) :
    l.connection.phase = .ready ∧ l'.connection.rawStream = l.connection.rawStream ∨
      ∃ stream, l.Takes m stream ∧ l'.connection.rawStream = some stream := by
  rcases edge_step h s with hsame | hedge
  · have hbefore : l.connection.phase = .ready := hsame.symm.trans hready
    exact Or.inl ⟨hbefore, (step_turn h s).raw_of_ready h.shaped hbefore hready⟩
  · -- The only edge to this phase is that of a binding.
    right
    rw [hready] at hedge
    generalize hphase : l.connection.phase = phase at hedge
    cases hedge with
    | bind runtime stream role =>
      cases s with
      | idle => simp [hphase] at hready
      | initTransport _ _ _ hresting =>
        have hatomic := Connection.initTransport_atomic l.connection l.now runtime stream role
        have hconnection : (l.initTransport runtime stream role).connection =
            (l.connection.initTransport l.now runtime stream role).connection := rfl
        rw [hconnection] at hready ⊢
        cases hresult : (l.connection.initTransport l.now runtime stream role).result with
        | error e =>
          rw [(hatomic.refused e hresult).1, hphase] at hready
          cases hready
        | ok =>
          obtain ⟨context, hsupplied, hsupports, hbound, -⟩ := hatomic.bound hresult
          refine ⟨stream, ⟨hresting, hphase, runtime, role, context, rfl, hsupplied, hsupports⟩, ?_⟩
          rw [hbound]
          rfl

/-- A ready connection has taken its stream. -/
theorem taken_run (handle : Handle) (now : Instant) (moves : List Move)
    (hready : ((new handle now).run moves).connection.phase = .ready) :
    ∃ before bind between stream, moves = before ++ bind :: between ∧
      ((new handle now).run before).Takes bind stream ∧
      ((new handle now).run moves).connection.rawStream = some stream := by
  induction moves using history_induction (l := new handle now) with
  | start => cases hready
  | keep before m s ih =>
    rcases taking_step (sound_run handle now before) s hready with
      ⟨hbefore, hsame⟩ | ⟨stream, htakes, hraw⟩
    · obtain ⟨first, bind, between, stream, rfl, htakes, hraw⟩ := ih hbefore
      exact ⟨first, bind, between ++ [m], stream, by simp, htakes, hsame.trans hraw⟩
    · exact ⟨before, m, [], stream, rfl, htakes, hraw⟩

/-- A call that nobody has looked at is made by this step, or was pending before it. -/
theorem calling_step {call : Nat} {delivery : Delivery} (s : Step l m l')
    (hcalled : l'.activity = .called call delivery) :
    l'.connection = l.connection ∧
      (m = .call delivery ∧ l.activity = .resting ∨ l.activity = .called call delivery) := by
  cases s with
  | idle | pass | finish => exact ⟨rfl, Or.inr hcalled⟩
  | call _ hresting =>
    cases hcalled
    exact ⟨rfl, Or.inl ⟨rfl, hresting⟩⟩
  | set s hresting =>
    rw [set_activity, hresting] at hcalled
    cases hcalled
  | initTransport runtime stream role hresting =>
    rw [initTransport_activity, hresting] at hcalled
    cases hcalled
  | attempt | refuse | resolve | forget | giveUp | release | shut | farewell | leave | drop =>
    cases hcalled

/-- As long as nobody has looked at a call, the connection is what it was when the call was made. -/
theorem called_run (handle : Handle) (now : Instant) (moves : List Move) {call : Nat}
    {delivery : Delivery}
    (hcalled : ((new handle now).run moves).activity = .called call delivery) :
    ∃ before waiting, moves = before ++ .call delivery :: waiting ∧
      ((new handle now).run before).activity = .resting ∧
      ((new handle now).run moves).connection = ((new handle now).run before).connection := by
  induction moves using history_induction (l := new handle now) with
  | start => cases hcalled
  | keep before m s ih =>
    obtain ⟨hsame, ⟨rfl, hresting⟩ | hpending⟩ := calling_step s hcalled
    · exact ⟨before, [], rfl, hresting, hsame⟩
    · obtain ⟨first, waiting, rfl, hresting, hkept⟩ := ih hpending
      exact ⟨first, waiting ++ [m], by simp, hresting, hsame.trans hkept⟩

/-- A handshake that was opened: the connection took a stream, later its owner called for a
handshake, and the first look at this call found the stream in its hands. The opening is that of the
connection as it was when the call was made. -/
def OpenedBy (start : Life) (moves : List Move) (opening : List Effect) : Prop :=
  ∃ before bind between delivery waiting look after task,
    let called := start.run (before ++ bind :: between)
    let looked := start.run (before ++ bind :: between ++ .call delivery :: waiting)
    moves = before ++ bind :: between ++ .call delivery :: waiting ++ look :: after ∧
      (start.run before).Takes bind task.stream ∧ called.activity = .resting ∧
      looked.connection = called.connection ∧ looked.Opens look task ∧
      opening = called.connection.opening looked.now task

theorem OpenedBy.snoc {start : Life} {moves : List Move} {opening : List Effect}
    (h : OpenedBy start moves opening) (m : Move) : OpenedBy start (moves ++ [m]) opening := by
  obtain ⟨before, bind, between, delivery, waiting, look, after, task, rfl, hopened⟩ := h
  exact ⟨before, bind, between, delivery, waiting, look, after ++ [m], task, by simp, hopened⟩

/-- A task is started on the stream that the connection took. -/
theorem Opens.openedBy {handle : Handle} {now : Instant} {before : List Move}
    {task : HandshakeTask} (hopens : ((new handle now).run before).Opens m task) :
    let l := (new handle now).run before
    OpenedBy (new handle now) (before ++ [m]) (l.connection.opening l.now task) := by
  intro l
  obtain ⟨call, delivery, hcalled⟩ := hopens.called
  obtain ⟨earlier, waiting, rfl, hresting, hsame⟩ := called_run handle now before hcalled
  have hready : ((new handle now).run earlier).connection.phase = .ready :=
    hsame ▸ hopens.ready
  obtain ⟨first, bind, between, stream, rfl, htakes, hraw⟩ := taken_run handle now earlier hready
  have hstream : some stream = some task.stream := by
    rw [← hraw, ← hsame]
    exact hopens.stream
  obtain rfl : stream = task.stream := Option.some.inj hstream
  refine ⟨first, bind, between, delivery, waiting, m, [], task, rfl, htakes, hresting, hsame,
    hopens, ?_⟩
  rw [hsame]

/-- What the moves of a life have opened. -/
structure Accountable (start : Life) (moves : List Move) : Prop where
  unopened : (start.run moves).connection.phase.IsEarly → (start.run moves).opening = []
  opened : (start.run moves).opening = [] ∨ OpenedBy start moves (start.run moves).opening

theorem accountable_run (handle : Handle) (now : Instant) (moves : List Move) :
    Accountable (new handle now) moves := by
  induction moves using history_induction (l := new handle now) with
  | start => exact ⟨fun _ => rfl, Or.inl rfl⟩
  | keep before m _ h =>
    have hsound := sound_run handle now before
    have hrun : (new handle now).run (before ++ [m]) = ((new handle now).run before).step m := by
      rw [run_append]
      rfl
    constructor
    · rw [hrun]
      exact unopened_step hsound h.unopened m
    · rw [hrun]
      rcases opening_step hsound m with hsame | ⟨task, hopens, hopening⟩
      · rw [hsame]
        exact h.opened.imp_right fun hopened => hopened.snoc m
      · -- Nothing was opened before.
        right
        rw [hopening, h.unopened (Or.inr hopens.ready), List.nil_append]
        exact hopens.openedBy

/-! ## Streams of tasks -/

/-- Whoever has a secured stream, or waits for one, has it of a task that was started. -/
structure Tasked (l : Life) : Prop where
  waiting : ∀ a, l.activity = .attempting a → .effect (.spawned a.task) ∈ l.trace
  own : ∀ a result, l.activity = .attempting a → l.ended = some result →
    result.isOf a.task = true
  secured : ∀ stream, l.connection.securedStream = some stream →
    ∃ task, .effect (.spawned task) ∈ l.trace ∧ task.stream = stream

theorem Tasked.rested (h : l.Tasked) (s : Step l m l')
    (hactivity : ∀ a, l'.activity ≠ .attempting a)
    (hsecured : ∀ stream, l'.connection.securedStream = some stream →
      l.connection.securedStream = some stream) : l'.Tasked where
  waiting := fun a ha => absurd ha (hactivity a)
  own := fun a _ ha => absurd ha (hactivity a)
  secured := by
    intro stream hstream
    obtain ⟨task, hspawned, htask⟩ := h.secured stream (hsecured stream hstream)
    exact ⟨task, mem_trace_step s hspawned, htask⟩

theorem tasked_step (h : l.Sound) (s : Step l m l') (htasked : l.Tasked) : l'.Tasked := by
  have hs := s
  have hempty : l.beginShutdown.connection.securedStream = none := l.beginShutdown_empty.2
  cases s with
  | idle | pass => exact ⟨htasked.waiting, htasked.own, htasked.secured⟩
  | @finish task result htask _ hof =>
    refine ⟨htasked.waiting, fun a result' ha hended => ?_, htasked.secured⟩
    have hactivity : l.activity = .attempting a := ha
    obtain rfl : a.task = task := by simpa [task?, hactivity] using htask
    obtain rfl : result = result' := Option.some.inj hended
    exact hof
  | set setting hresting =>
    refine htasked.rested hs (fun a ha => ?_) fun stream hstream => ?_
    · simp [hresting] at ha
    · simpa [Life.set, Connection.securedStream] using hstream
  | initTransport runtime stream role hresting =>
    refine htasked.rested hs (fun a ha => ?_) fun stream hstream => ?_
    · simp [hresting] at ha
    · rcases Connection.initTransport_connection l.connection l.now runtime _ role with
        hsame | ⟨context, -, -, hready⟩
      · rwa [Life.initTransport, become_connection, hsame] at hstream
      · simp [Life.initTransport, hready, Connection.securedStream, Channel.secure?] at hstream
  | @attempt call delivery task first _ hok =>
    obtain ⟨-, -, -, htransfers⟩ := Connection.start_transfers h.shaped hok
    refine ⟨fun a ha => ?_, fun a _ _ hended => ?_, fun stream hstream => ?_⟩
    · cases ha
      have hmem : .spawned task ∈ (l.connection.start l.now).effects.filter Effect.isTransfer := by
        rw [htransfers]
        exact List.mem_singleton_self _
      simp [Life.attempt, (List.mem_filter.mp hmem).1]
    · cases hended
    · -- The task has the stream now.
      have hphase := (Connection.phase_of_start_ok h.shaped hok).2
      have hnone := ((sound_step h hs).shaped.empty (Or.inl hphase)).2.2
      cases hnone.symm.trans hstream
  | refuse first hcalled herror =>
    refine htasked.rested hs (by simp) fun stream hstream => ?_
    simpa [(Connection.start_error h.shaped herror).2] using hstream
  | @resolve a o timerFirst hactivity hpoll =>
    obtain ⟨_, _, context, deadline, -, -, -, hchannel, htimer, -⟩ :=
      h.shaped.of_handshaking (h.attempting a hactivity)
    refine ⟨fun _ ha => (by cases ha), fun _ _ ha => (by cases ha), fun stream hstream => ?_⟩
    rw [conclude_connection] at hstream
    rcases Connection.poll_eq_some htimer hpoll with ⟨result, hended, rfl⟩ | ⟨-, rfl⟩
    · rcases Connection.conclude_cases l.connection result with
        ⟨secured, rfl, -, heq⟩ | ⟨_, -, -, heq⟩
      · obtain rfl : secured = stream := by
          simpa [heq, Connection.securedStream, hchannel, Channel.establish, Channel.secure?]
            using hstream
        have hof := htasked.own a _ hactivity hended
        exact ⟨a.task, mem_trace_step hs (htasked.waiting a hactivity),
          (of_decide_eq_true hof).symm⟩
      · simp [heq, Connection.securedStream, hchannel, Channel.secure?] at hstream
    · simp [Connection.expire, Connection.securedStream, hchannel, Channel.secure?] at hstream
  | call | forget | giveUp | farewell | leave | drop =>
    exact htasked.rested hs (by simp) fun _ => id
  | release =>
    refine htasked.rested hs (by simp) fun stream hstream => ?_
    cases hempty.symm.trans hstream
  | shut =>
    refine htasked.rested hs (by simp) fun stream hstream => ?_
    cases hempty.symm.trans hstream

theorem tasked_run (handle : Handle) (now : Instant) (moves : List Move) :
    ((new handle now).run moves).Tasked := by
  have hkept : ((new handle now).run moves).Sound ∧ ((new handle now).run moves).Tasked := by
    refine run_induction (P := fun l => l.Sound ∧ l.Tasked) moves
      ⟨new_sound handle now, ⟨by simp [new], by simp [new], ?_⟩⟩ ?_
    · intro stream hstream
      cases hstream
    · rintro l l' m - s ⟨hsound, htasked⟩
      exact ⟨sound_step hsound s, tasked_step hsound s htasked⟩
  exact hkept.2

end Life

end BoundedTls
