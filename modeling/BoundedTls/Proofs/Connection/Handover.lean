import BoundedTls.Connection.Basic
import BoundedTls.Proofs.Network.Progress

/-!
# A handover takes the stream or touches nothing

A channel hands its stream over in place. It takes its stage out before it looks at it, leaves
another one there for the time being, and has to put the stage back if there is no raw stream in it.
So an error comes after the channel was written to, and still the channel must have lost nothing.

## Architecture

- **Steps**: what a handover does one after the other (`Handover.handOver`), on a channel and the
  tasks that were spawned so far. What was written before an error stays written.
- **Outcomes**: what a handover comes to in each case, and that `Channel.startHandshake` and the
  start of a handshake come to the same (`startHandshake_eq_hand`, `start_hands`).
- **Sides**: the side that a role takes has the configuration that the context holds for it
  (`Side.Serves`).
- **Tasks**: what a task does that has the side of a role, however often it runs and whatever
  becomes of the network in between (`HandshakeTask.Drives`). The handover itself does not depend on
  it.
-/

namespace BoundedTls

open BoundedTls.Tls BoundedTls.Time

/-- What a handover can touch: the channel, and the tasks that were spawned so far. -/
structure Handover where
  channel : Channel
  spawned : List HandshakeTask := []

namespace Handover

/-! ## Steps -/

/-- A step of a handover, which may end it with an error. -/
abbrev Action := ExceptT ConnectionError (StateM Handover)

/-- Put a stage into the channel; the one that was there comes out. -/
def replaceStage (stage : Stage) : Action Stage := do
  let h ← get
  set { h with channel := { h.channel with stage } }
  return h.channel.stage

/-- Spawn a task that owns a stream. -/
def spawn (stream : StreamId) (side : Side) : Action HandshakeTask := do
  let task : HandshakeTask := ⟨stream, side⟩
  modify fun h => { h with spawned := h.spawned ++ [task] }
  return task

/-- Hand the raw stream of the channel over to a task. -/
def handOver (role : Role) : Action HandshakeTask := do
  unless (← get).channel.context.supports role do
    throw .unusableContext
  -- Until it is known what the stage is, the channel has another one.
  match ← replaceStage .handshaking with
  | .raw stream => spawn stream ((← get).channel.side role)
  | other =>
    let _ ← replaceStage other
    throw Channel.streamGone

section

variable {α β : Type} {h : Handover}

/-- What a step comes to on a channel and its tasks, and what it leaves behind. -/
def Action.on (action : Action α) (h : Handover) : Except ConnectionError α × Handover :=
  (ExceptT.run action).run h

/-- An error ends a handover, which leaves behind what was written so far. -/
@[simp] theorem bind_on (action : Action α) (next : α → Action β) :
    Action.on (action >>= next) h =
      match action.on h with
      | (.ok a, h') => (next a).on h'
      | (.error e, h') => (.error e, h') := by
  unfold Action.on ExceptT.run StateT.run
  simp only [bind, ExceptT.bind, ExceptT.mk, StateT.bind]
  cases action h with
  | mk result h' => cases result <;> rfl

@[simp] theorem get_on : Action.on get h = (.ok h, h) := rfl

@[simp] theorem throw_on (e : ConnectionError) :
    Action.on (throw e : Action α) h = (.error e, h) := rfl

@[simp] theorem replaceStage_on (stage : Stage) :
    (replaceStage stage).on h =
      (.ok h.channel.stage, { h with channel := { h.channel with stage } }) := rfl

@[simp] theorem spawn_on (stream : StreamId) (side : Side) :
    (spawn stream side).on h =
      (.ok ⟨stream, side⟩, { h with spawned := h.spawned ++ [⟨stream, side⟩] }) := rfl

end

/-- What the handover comes to, and what it leaves behind. -/
def hand (h : Handover) (role : Role) : Except ConnectionError HandshakeTask × Handover :=
  (handOver role).on h

/-! ## Outcomes -/

variable {h : Handover} {role : Role} {stream : StreamId}

theorem hand_of_unsupported (hsupports : h.channel.context.supports role = false) :
    h.hand role = (.error .unusableContext, h) := by
  simp [hand, handOver, hsupports]

theorem hand_of_raw (hsupports : h.channel.context.supports role = true)
    (hstage : h.channel.stage = .raw stream) :
    h.hand role = (.ok ⟨stream, h.channel.side role⟩,
      { channel := { h.channel with stage := .handshaking }
        spawned := h.spawned ++ [⟨stream, h.channel.side role⟩] }) := by
  simp [hand, handOver, hsupports, hstage, Channel.side]

/-- Whatever else the stage is, it is put back. -/
theorem hand_of_other (hsupports : h.channel.context.supports role = true)
    (hstage : ∀ stream, h.channel.stage ≠ .raw stream) :
    h.hand role = (.error Channel.streamGone, h) := by
  simp [hand, handOver, hsupports]

/-- What a handover can come to, case by case. -/
inductive Comes (h : Handover) (role : Role) :
    Except ConnectionError HandshakeTask × Handover → Prop where
  | refuses : h.channel.context.supports role = false → Comes h role (.error .unusableContext, h)
  | takes {stream : StreamId} :
      h.channel.context.supports role = true → h.channel.stage = .raw stream →
      Comes h role (.ok ⟨stream, h.channel.side role⟩,
        { channel := { h.channel with stage := .handshaking }
          spawned := h.spawned ++ [⟨stream, h.channel.side role⟩] })
  | misses :
      h.channel.context.supports role = true → (∀ stream, h.channel.stage ≠ .raw stream) →
      Comes h role (.error Channel.streamGone, h)

theorem hand_comes (h : Handover) (role : Role) : h.Comes role (h.hand role) := by
  cases hsupports : h.channel.context.supports role with
  | false =>
    rw [hand_of_unsupported hsupports]
    exact .refuses hsupports
  | true =>
    by_cases hraw : ∃ stream, h.channel.stage = .raw stream
    · obtain ⟨stream, hstage⟩ := hraw
      rw [hand_of_raw hsupports hstage]
      exact .takes hsupports hstage
    · have hstage := not_exists.mp hraw
      rw [hand_of_other hsupports hstage]
      exact .misses hsupports hstage

/-- **Handing over in place comes to what the channel says.** -/
theorem startHandshake_eq_hand (h : Handover) (role : Role) :
    h.channel.startHandshake role =
      (h.hand role).1.map fun task => (task, (h.hand role).2.channel) := by
  have hcomes := hand_comes h role
  generalize h.hand role = handed at hcomes
  cases hcomes with
  | refuses hsupports => simp [Channel.startHandshake, hsupports, Except.map]
  | takes hsupports hstage => simp [Channel.startHandshake, hsupports, hstage, Except.map]
  | misses hsupports hstage => simp [Channel.startHandshake, hsupports, Except.map]

end Handover

/-- The task that an effect is the start of. -/
def Effect.spawned? : Effect → Option HandshakeTask
  | spawned task => some task
  | _ => none

namespace Connection

variable {c : Connection} {channel : Channel} {role : Role}

/-- Before a connection hands its channel over it spawns nothing, with a preparer or without. -/
theorem start_eq (hready : c.phase = .ready) (hchannel : c.channel = some channel)
    (hrole : c.role = some role) (htimer : c.timer.isSome) (hruntime : c.runtime.isSome)
    (now : Instant) :
    ∃ before armed disarmed, before.filterMap Effect.spawned? = [] ∧
      c.start now =
        match channel.startHandshake role with
        | .ok (task, channel) =>
          ⟨.ok task,
            { c with channel := some channel, timer := some armed, phase := .handshaking },
            before ++ [.spawned task, .log (.handshakeStarted c.handle role c.timeout.millis64)]⟩
        | .error e => ⟨.error e, { c with timer := some disarmed, phase := .failed }, before⟩ := by
  obtain ⟨timer, htimer⟩ := Option.isSome_iff_exists.mp htimer
  obtain ⟨runtime, hruntime⟩ := Option.isSome_iff_exists.mp hruntime
  unfold start
  rw [if_neg (by simp [hready]), hchannel, htimer, hruntime, hrole]
  refine ⟨_, _, _, ?_, rfl⟩
  cases c.preparer <;> cases channel.raw? <;> rfl

/-- A connection that starts a handshake hands its channel over, and reports the spawned tasks. -/
theorem start_hands (hready : c.phase = .ready) (hchannel : c.channel = some channel)
    (hrole : c.role = some role) (htimer : c.timer.isSome) (hruntime : c.runtime.isSome)
    (now : Instant) (spawned : List HandshakeTask) :
    (c.start now).result = (Handover.hand ⟨channel, spawned⟩ role).1 ∧
      (c.start now).connection.channel = some (Handover.hand ⟨channel, spawned⟩ role).2.channel ∧
      spawned ++ (c.start now).effects.filterMap Effect.spawned? =
        (Handover.hand ⟨channel, spawned⟩ role).2.spawned := by
  obtain ⟨before, _, _, hbefore, hstart⟩ := start_eq hready hchannel hrole htimer hruntime now
  rw [hstart, Handover.startHandshake_eq_hand ⟨channel, spawned⟩ role]
  have hcomes := Handover.hand_comes ⟨channel, spawned⟩ role
  generalize Handover.hand ⟨channel, spawned⟩ role = handed at hcomes
  cases hcomes with
  | refuses | misses => simp [Except.map, hchannel, hbefore]
  | takes => simp [Except.map, hbefore, Effect.spawned?]

end Connection

/-! ## Sides -/

/-- The side serves a role with the configuration that the context has for it: that of the server,
or that of the client with the name to expect. -/
inductive Side.Serves (context : Context) : Role → Side → Prop where
  | accept {config : ServerConfig} :
      context.server = some config → Serves context .server (.accept (some config))
  | connect {config : ClientConfig} {name : Address.ServerName} :
      context.client = some (config, name) → Serves context .client (.connect (some (config, name)))

/-- A role that the context supports is served. -/
theorem Channel.side_serves {channel : Channel} {role : Role}
    (hsupports : channel.context.supports role = true) :
    (channel.side role).Serves channel.context role := by
  cases role with
  | server =>
    obtain ⟨config, hserver⟩ := Option.isSome_iff_exists.mp hsupports
    rw [Channel.side, hserver]
    exact .accept hserver
  | client =>
    obtain ⟨⟨config, name⟩, hclient⟩ := Option.isSome_iff_exists.mp hsupports
    rw [Channel.side, hclient]
    exact .connect hclient

/-! ## Tasks -/

/-- The station is one of a task that secures a stream in a role with its context. -/
inductive Progress.Plays (context : Context) (stream : StreamId) : Role → Progress → Prop where
  | fresh {role : Role} : Plays context stream role .fresh
  | awaitingHello {config : ServerConfig} :
      context.server = some config → Plays context stream .server (.awaitingHello config)
  | awaitingClient (version : Version) : Plays context stream .server (.awaitingClient version)
  | awaitingFlight {config : ClientConfig} {name : Address.ServerName} :
      context.client = some (config, name) →
      Plays context stream .client (.awaitingFlight config name)
  | awaitingServer : Plays context stream .client .awaitingServer
  | secured {role : Role} : Plays context stream role (.ended (.secured stream))
  /-- A task that fails secures nothing, and does not fail for want of a configuration. -/
  | failed {role : Role} {result : TaskResult} :
      (∀ other, result ≠ .secured other) → (∀ what, result ≠ RunningTask.unconfigured what) →
      Plays context stream role (.ended result)

/-- A task whose side serves the role keeps to the stations of the role. -/
theorem Progress.Plays.next {context : Context} {role : Role} {task : HandshakeTask}
    {p p' : Progress} (hside : task.side.Serves context role)
    (h : p.Plays context task.stream role) (hnext : Progress.Next task p p') :
    p'.Plays context task.stream role := by
  cases hnext with
  | serve htask =>
    rw [htask] at hside
    cases hside with
    | accept hserver => exact .awaitingHello hserver
  | approach htask =>
    rw [htask] at hside
    cases hside with
    | connect hclient => exact .awaitingFlight hclient
  | unserved htask | unapproached htask =>
    rw [htask] at hside
    cases hside
  | answer config version =>
    cases h with
    | awaitingHello => exact .awaitingClient version
  | approve config name =>
    cases h with
    | awaitingFlight => exact .awaitingServer
  | succeed => exact .secured
  | fail _ hsecured hconfigured => exact .failed hsecured hconfigured

namespace RunningTask

/-- A task after it ran on these networks, one after the other. -/
def runs (t : RunningTask) (networks : List Network) : RunningTask :=
  networks.foldl (fun t n => (t.run n).1) t

theorem runs_leads (t : RunningTask) (networks : List Network) : t.Leads (t.runs networks) := by
  -- Every run makes another task.
  induction networks generalizing t with
  | nil => exact .refl t
  | cons n networks ih => exact (t.run_leads n).trans (ih _)

end RunningTask

/-- The first that a task does is to wait for a hello with the configuration of its server, or to
say hello for its client. -/
inductive HandshakeTask.Begins (task : HandshakeTask) (context : Context) : Role → Prop where
  | serve {config : ServerConfig} :
      context.server = some config →
      (∀ n, RunningTask.run { task } n =
        RunningTask.read { task, progress := .awaitingHello config } n) →
      Begins task context .server
  | approach {config : ClientConfig} {name : Address.ServerName} :
      context.client = some (config, name) →
      (∀ n, RunningTask.run { task } n =
        RunningTask.read { task, progress := .awaitingFlight config name }
          (n.write task.stream (.message (.clientHello config.versions))).2) →
      Begins task context .client

/-- As it runs, the task secures its stream in the role, with what the context has for the role. -/
structure HandshakeTask.Drives (task : HandshakeTask) (role : Role) (context : Context) :
    Prop where
  begins : task.Begins context role
  /-- The task keeps its stream and its side, and to the stations of its role. -/
  plays : ∀ networks : List Network,
    (RunningTask.runs { task } networks).task = task ∧
      (RunningTask.runs { task } networks).progress.Plays context task.stream role

/-- **The side decides what a task does.** -/
theorem Side.Serves.drives {task : HandshakeTask} {context : Context} {role : Role}
    (hside : task.side.Serves context role) : task.Drives role context where
  begins := by
    obtain ⟨stream, side⟩ := task
    cases hside with
    | accept hserver => exact .serve hserver fun _ => rfl
    | connect hclient => exact .approach hclient fun _ => rfl
  plays := by
    intro networks
    obtain ⟨htask, hprogress⟩ := RunningTask.runs_leads { task } networks
    refine ⟨htask, ?_⟩
    generalize (RunningTask.runs { task } networks).progress = p at hprogress ⊢
    -- Every station on the way is one of the role, from the fresh task on.
    induction hprogress with
    | refl => exact .fresh
    | tail _ hnext ih => exact ih.next hside hnext

/-! ## Taking the stream -/

/-- A handover took the stream: one task was spawned, which owns the stream that was raw and has the
side of the role, and the channel waits for its handshake. -/
structure Handover.Takes (h after : Handover) (role : Role) (task : HandshakeTask) : Prop where
  owns : h.channel.stage = .raw task.stream
  side : task.side.Serves h.channel.context role
  spawned : after.spawned = h.spawned ++ [task]
  channel : after.channel = { h.channel with stage := .handshaking }

namespace Handover

/-- **A handover takes the stream or touches nothing.** It takes the stream exactly if the context
supports the role and there is a raw stream. Otherwise the channel and the tasks are as before, and
a role that the context does not support is reported before a missing stream. The channel and a
connection that starts a handshake come to the same; and a task that was spawned drives the role,
however often it runs. -/
theorem takes_stream_or_touches_nothing (h : Handover) (role : Role) :
    ((∃ task, (h.hand role).1 = .ok task) ↔
      h.channel.context.supports role = true ∧ ∃ stream, h.channel.stage = .raw stream) ∧
    (∀ task, (h.hand role).1 = .ok task → h.Takes (h.hand role).2 role task) ∧
    (∀ e, (h.hand role).1 = .error e →
      (h.hand role).2 = h ∧
        e = if h.channel.context.supports role then Channel.streamGone else .unusableContext) ∧
    (h.channel.startHandshake role =
      (h.hand role).1.map fun task => (task, (h.hand role).2.channel)) ∧
    (∀ c : Connection, c.phase = .ready → c.channel = some h.channel → c.role = some role →
      c.timer.isSome → c.runtime.isSome → ∀ now,
      (c.start now).result = (h.hand role).1 ∧
        (c.start now).connection.channel = some (h.hand role).2.channel ∧
        h.spawned ++ (c.start now).effects.filterMap Effect.spawned? = (h.hand role).2.spawned) ∧
    ∀ task, (h.hand role).1 = .ok task → task.Drives role h.channel.context := by
  have htakes : ∀ task, (h.hand role).1 = .ok task → h.Takes (h.hand role).2 role task := by
    intro task hok
    have hcomes := hand_comes h role
    generalize h.hand role = handed at hcomes hok
    cases hcomes with
    | refuses | misses => cases hok
    | takes hsupports hstage =>
      cases hok
      exact ⟨hstage, Channel.side_serves hsupports, rfl, rfl⟩
  refine ⟨?_, htakes, ?_, startHandshake_eq_hand h role, ?_, ?_⟩
  · have hcomes := hand_comes h role
    generalize h.hand role = handed at hcomes
    cases hcomes with
    | refuses hsupports => simp [hsupports]
    | takes hsupports hstage => simp [hsupports, hstage]
    | misses _ hstage => simp [hstage]
  · intro e herror
    have hcomes := hand_comes h role
    generalize h.hand role = handed at hcomes herror
    cases hcomes with
    | refuses hsupports | misses hsupports =>
      cases herror
      simp [hsupports]
    | takes => cases herror
  · intro c hready hchannel hrole htimer hruntime now
    exact Connection.start_hands hready hchannel hrole htimer hruntime now h.spawned
  · intro task hok
    exact (htakes task hok).side.drives

end Handover

end BoundedTls
