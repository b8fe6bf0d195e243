import BoundedTls.Endpoint
import BoundedTls.Proofs.Connection.Opening
import BoundedTls.Proofs.Connection.Parting
import BoundedTls.Proofs.Connection.Settings
import BoundedTls.Proofs.Network.Options
import Mathlib.Data.List.Induction

/-!
# Handlers and the host

A connection lives on a host: what its operations do is carried out there, its task runs there with
all others, and its peers, other connections and its own owner use the streams of the host
meanwhile. An endpoint that is configured to send small packets at once names a preparer who sets
the option of the stream. As the preparer comes before the task, the option is on before the first
byte of the handshake, and it is still on when the owner of a secured connection looks at the
stream. Without a preparer neither the connection nor its task touches any option.

## Architecture

- **Hosts**: a life and the host that carries out its effects (`Hosted`), and all that can happen
  there (`Happening`).
- **Preparers**: as long as the handshake has not begun, the preparer is the one that was stamped
  (`Hosted.preparer_run`).
- **Options**: what a step of the host does to the option of a stream, for steps of the connection
  and for all others (`Hosted.nodelay_run`, `Hosted.options_step`).

Main statement: `Hosted.handlers_keep_discipline`.
-/

namespace BoundedTls

open BoundedTls.Time

/-! ## The host -/

/-- What others do with the streams of the host. -/
inductive Network.Act where
  | dial
  | write (s : StreamId) (packet : Packet)
  | finish (s : StreamId)
  | close (s : StreamId)
  | drain (s : StreamId)
  | receive (s : StreamId) (limit : Nat)

def Network.carry (n : Network) : Network.Act → Network
  | .dial => n.connect.2.2
  | .write s packet => (n.write s packet).2
  | .finish s => n.finish s
  | .close s => n.close s
  | .drain s => (n.drain s).2
  | .receive s limit => (n.receive s limit).2

theorem Network.Keeps.carry {s : StreamId} (n : Network) (act : Network.Act) :
    Keeps s n (n.carry act) := by
  cases act with
  | dial => exact .connect n
  | write t packet => exact .of_options (n.write_options t packet)
  | finish t => exact .of_options (n.finish_options t)
  | close t => exact .of_options (n.close_options t)
  | drain t => exact .of_options (n.drain_options t)
  | receive t limit => exact .of_options (n.receive_options t limit)

/-- What happens on a host. -/
inductive Happening where
  /-- The connection makes a move. -/
  | move (m : Move)
  /-- The handshake tasks run. -/
  | ran (stop : List RunningTask → Bool)
  /-- Another connection does something. -/
  | other (effect : Effect)
  | traffic (act : Network.Act)
  /-- Whoever has the stream in hand sets its option. -/
  | option (s : StreamId) (on : Bool)

/-- It is the connection that makes it happen, or the handshake tasks. -/
def Happening.isOwn : Happening → Bool
  | move _ | ran _ => true
  | other _ | traffic _ | option _ _ => false

/-- A connection and the host that it lives on. -/
structure Hosted where
  life : Life
  host : World

namespace Hosted

def new (handle : Handle) (now : Instant) (host : World) : Hosted :=
  ⟨.new handle now, host⟩

/-- A stream can be given to a connection if it is there. -/
def fits (h : Hosted) : Move → Bool
  | .initTransport _ stream _ => (h.host.network.nodelay? stream).isSome
  | _ => true

def step (h : Hosted) : Happening → Hosted
  | .move m =>
    if h.fits m then
      ⟨h.life.step m, h.host.performAll ((h.life.step m).since h.life)⟩
    else h
  | .ran stop => { h with host := h.host.runUntil stop }
  | .other effect => { h with host := h.host.perform effect }
  | .traffic act => { h with host := { h.host with network := h.host.network.carry act } }
  | .option s on => { h with host := { h.host with network := (h.host.network.setNodelay s on).2 } }

def run (h : Hosted) (history : List Happening) : Hosted :=
  history.foldl step h

/-- The option of a stream of the host. -/
def nodelay? (h : Hosted) (s : StreamId) : Option Bool :=
  h.host.network.nodelay? s

variable {h : Hosted}

theorem run_append (h : Hosted) (first later : List Happening) :
    h.run (first ++ later) = (h.run first).run later := by
  simp [run]

theorem run_snoc (h : Hosted) (history : List Happening) (x : Happening) :
    h.run (history ++ [x]) = (h.run history).step x := by
  rw [run_append]
  rfl

/-- The life of a connection goes on by moves, wherever it is led. -/
theorem life_step (h : Hosted) (x : Happening) :
    (h.step x).life = h.life ∨ ∃ m, x = .move m ∧ h.fits m = true ∧
      h.step x = ⟨h.life.step m, h.host.performAll ((h.life.step m).since h.life)⟩ := by
  cases x with
  | move m =>
    cases hfits : h.fits m with
    | true => exact Or.inr ⟨m, rfl, hfits, by simp [step, hfits]⟩
    | false => exact Or.inl (by simp [step, hfits])
  | ran | other | traffic | option => exact Or.inl rfl

/-- What a connection keeps with every move it keeps on its host. -/
theorem life_keeps {P : Life → Prop} (x : Happening) (hbefore : P h.life)
    (hafter : ∀ m, P (h.life.step m)) : P (h.step x).life := by
  rcases life_step h x with hsame | ⟨m, -, -, hstep⟩
  · rwa [hsame]
  · rw [hstep]
    exact hafter m

/-- What is known of the life of a connection, and of the stream that a ready one holds. -/
structure Sound (h : Hosted) : Prop where
  life : h.life.Sound
  unopened : h.life.connection.phase.IsEarly → h.life.opening = []
  tasked : h.life.Tasked
  parting : h.life.Parting
  placed : h.life.connection.phase = .ready → ∀ stream,
    h.life.connection.rawStream = some stream → (h.nodelay? stream).isSome

theorem new_sound (handle : Handle) (now : Instant) (host : World) :
    (new handle now host).Sound where
  life := Life.new_sound handle now
  unopened := fun _ => rfl
  tasked := Life.tasked_run handle now []
  parting := Life.parting_run handle now []
  placed := by
    intro hready
    cases hready

/-- An option stays on unless somebody sets it off. -/
theorem keeps_step (h : Hosted) {x : Happening} {s : StreamId} (hx : x ≠ .option s false) :
    Network.Keeps s h.host.network (h.step x).host.network := by
  cases x with
  | move m =>
    simp only [step]
    split
    · exact .performAll h.host _
    · exact .of_options rfl
  | ran stop => exact .of_options (h.host.runUntil_options stop)
  | other effect => exact .perform h.host effect
  | traffic act => exact .carry h.host.network act
  | option t on =>
    refine .setNodelay h.host.network fun hsame => ?_
    cases on with
    | true => rfl
    | false => exact absurd (hsame ▸ rfl) hx

/-- A stream that is there stays, whatever happens. -/
theorem there_step (h : Hosted) (x : Happening) {s : StreamId} (hthere : (h.nodelay? s).isSome) :
    ((h.step x).nodelay? s).isSome := by
  by_cases hx : x = .option s false
  · subst hx
    simpa [nodelay?, step, Network.setNodelay_nodelay?] using hthere
  · exact (h.keeps_step hx).there hthere

/-- The stream that a connection is given is there. -/
theorem placed_step (hs : h.Sound) (x : Happening)
    (hready : (h.step x).life.connection.phase = .ready) (stream : StreamId)
    (hraw : (h.step x).life.connection.rawStream = some stream) :
    ((h.step x).nodelay? stream).isSome := by
  apply there_step
  rcases life_step h x with hsame | ⟨m, rfl, hfits, hstep⟩
  · rw [hsame] at hready hraw
    exact hs.placed hready stream hraw
  · rw [hstep] at hready hraw
    rcases Life.taking_step hs.life (Life.step_is_step h.life m) hready with
      ⟨hbefore, hkept⟩ | ⟨taken, htakes, htaken⟩
    · exact hs.placed hbefore stream (hkept.symm.trans hraw)
    · obtain rfl : taken = stream := Option.some.inj (htaken.symm.trans hraw)
      obtain ⟨runtime, role, context, rfl, -, -⟩ := htakes.bound
      exact hfits

theorem sound_step (hs : h.Sound) (x : Happening) : (h.step x).Sound where
  life := life_keeps x hs.life fun m => Life.sound_step hs.life (Life.step_is_step _ m)
  unopened := life_keeps (P := fun l => l.connection.phase.IsEarly → l.opening = []) x hs.unopened
    fun m => Life.unopened_step hs.life hs.unopened m
  tasked := life_keeps x hs.tasked fun m =>
    Life.tasked_step hs.life (Life.step_is_step _ m) hs.tasked
  parting := life_keeps x hs.parting fun m =>
    Life.parting_step hs.life (Life.step_is_step _ m) hs.parting
  placed := placed_step hs x

theorem sound_run (hs : h.Sound) (history : List Happening) : (h.run history).Sound := by
  induction history generalizing h with
  | nil => exact hs
  | cons x history ih => exact ih (sound_step hs x)

/-! ## Preparers -/

/-- Nobody names a preparer before the handshake begins, by a setting or by a stamp. -/
def Undisturbed (h : Hosted) (history : List Happening) : Prop :=
  ∀ before m after, history = before ++ .move m :: after →
    (h.run before).life.connection.phase.IsEarly →
    (h.run before).life.given? m .preparer = none

theorem Undisturbed.init {history later : List Happening}
    (hu : h.Undisturbed (history ++ later)) : h.Undisturbed history := by
  intro before m after hsplit
  exact hu before m (after ++ later) (by simp [hsplit])

/-- Settings that name no preparer disturb nothing. -/
theorem Undisturbed.of_settings {history : List Happening}
    (hnone : ∀ s, .move (.set s) ∈ history → s.given? .preparer = none) :
    h.Undisturbed history := by
  rintro before m after rfl -
  unfold Life.given?
  split
  · exact hnone _ (by simp)
  · rfl

/-- **The preparer stays until the handshake begins.** -/
theorem preparer_run (hs : h.Sound) {history : List Happening} (hu : h.Undisturbed history)
    (hearly : (h.run history).life.connection.phase.IsEarly) :
    (h.run history).life.connection.preparer = h.life.connection.preparer := by
  induction history using List.reverseRecOn with
  | nil => rfl
  | append_singleton history x ih =>
    rw [run_snoc] at hearly ⊢
    rcases life_step (h.run history) x with hsame | ⟨m, rfl, -, hstep⟩
    · rw [hsame] at hearly ⊢
      exact ih hu.init hearly
    · rw [hstep] at hearly ⊢
      have hbefore : (h.run history).life.connection.phase.IsEarly :=
        Life.early_step (sound_run hs history).life (Life.step_is_step _ m) hearly
      have hshared := Life.shared_step (h.run history).life m .preparer
      rw [hu history m [] rfl hbefore] at hshared
      exact hshared.trans (ih hu.init hbefore)

/-! ## Options -/

/-- **The option is on before there is a task**, and stays on unless somebody sets it off. -/
theorem nodelay_run (hs : h.Sound) {preparer : StreamPreparer} (hon : preparer.setsNodelay = true)
    (hpreparer : h.life.connection.preparer = some preparer) {early late : List Happening}
    (hu : h.Undisturbed (early ++ late)) (hearly : (h.run early).life.connection.phase.IsEarly)
    {task : HandshakeTask} (hoff : .option task.stream false ∉ late)
    (hspawned : .effect (.spawned task) ∈ (h.run (early ++ late)).life.trace) :
    (h.run (early ++ late)).nodelay? task.stream = some true := by
  -- The handshake begins in the later part, whose end is taken off first.
  induction late using List.reverseRecOn with
  | nil =>
    rw [List.append_nil, Life.spawned_mem_iff, (sound_run hs early).unopened hearly] at hspawned
    cases hspawned
  | append_singleton late x ih =>
    rw [← List.append_assoc] at hu hspawned ⊢
    rw [run_snoc] at hspawned ⊢
    have hbefore := sound_run hs (early ++ late)
    have hkept := (h.run (early ++ late)).keeps_step (x := x) (s := task.stream) fun hx =>
      hoff (by simp [hx])
    have hlate : .option task.stream false ∉ late := fun hmem => hoff (by simp [hmem])
    rcases life_step (h.run (early ++ late)) x with hsame | ⟨m, rfl, -, hstep⟩
    · rw [hsame] at hspawned
      exact hkept.on (ih hu.init hlate hspawned)
    · have hmove : .effect (.spawned task) ∈ ((h.run (early ++ late)).life.step m).trace := by
        rwa [hstep] at hspawned
      rcases Life.spawned_opens hbefore.life hmove with hold | hopens
      · exact hkept.on (ih hu.init hlate hold)
      · -- The preparer that was stamped is called before the task is started.
        have hstamped := (preparer_run hs hu.init (Or.inr hopens.ready)).trans hpreparer
        obtain ⟨later, hsince⟩ := hopens.since hbefore.life
        rw [hstep, hsince,
          Connection.opening_of_preparer hopens.ready hstamped hopens.stream]
        exact World.prepared_first _ _ hon (hbefore.placed hopens.ready _ hopens.stream) _

/-- Without a preparer neither the connection nor a task touches an option. -/
theorem options_step (hs : h.Sound)
    (hnone : h.life.connection.phase.IsEarly → h.life.connection.preparer = none) {x : Happening}
    (hown : x.isOwn = true) : (h.step x).host.network.options = h.host.network.options := by
  cases x with
  | ran stop => exact h.host.runUntil_options stop
  | other | traffic | option => cases hown
  | move m =>
    simp only [step]
    split
    · refine h.host.performAll_options fun handle s preparer hprepared => ?_
      obtain ⟨hready, hsome⟩ := Life.prepared_since hs.life hprepared
      rw [hnone (Or.inr hready)] at hsome
      cases hsome
    · rfl

/-! ## Every connection -/

/-- The option of the stream that the connection takes is on, from before there is a task, until
somebody sets it off. -/
structure KeepsNodelay (h : Hosted) (history : List Happening) : Prop where
  /-- Before the handshake begins there is no task that could write. -/
  silent : (h.run history).life.connection.phase.IsEarly →
    ∀ task, .effect (.spawned task) ∉ (h.run history).life.trace
  on : ∀ early late, history = early ++ late → (h.run early).life.connection.phase.IsEarly →
    ∀ task, .effect (.spawned task) ∈ (h.run history).life.trace →
      .option task.stream false ∉ late → (h.run history).nodelay? task.stream = some true
  /-- The owner of an established connection has a stream to look at, until a shutdown takes it. -/
  held : (h.run history).life.connection.phase = .established →
    (h.run history).life.connection.rawStream.isSome ∨ (h.run history).life.FarewellBegun
  /-- What the owner of an established connection looks at shows the option on. -/
  shown : (h.run history).life.connection.phase = .established →
    ∀ stream, (h.run history).life.connection.rawStream = some stream →
      ∀ early late, history = early ++ late → (h.run early).life.connection.phase.IsEarly →
        .option stream false ∉ late → (h.run history).nodelay? stream = some true

/-- An established connection has a secured stream, unless a shutdown has taken it. -/
theorem Sound.secured_or_parting (hs : h.Sound)
    (hestablished : h.life.connection.phase = .established) :
    (∃ stream, h.life.connection.securedStream = some stream) ∨ h.life.FarewellBegun := by
  by_cases hbegun : h.life.FarewellBegun
  · exact Or.inr hbegun
  · have htruthful : h.life.connection.Truthful :=
      (hs.parting.truthful_iff hs.life).mpr fun hfarewell => absurd hfarewell hbegun
    exact Or.inl (Option.isSome_iff_exists.mp (htruthful.established hestablished))

/-- Neither the connection nor a task ever touches the option of a stream. -/
def LeavesOptions (h : Hosted) (history : List Happening) : Prop :=
  ∀ before x after, history = before ++ x :: after → x.isOwn = true →
    ((h.run before).step x).host.network.options = (h.run before).host.network.options

theorem keepsNodelay (hs : h.Sound) {preparer : StreamPreparer}
    (hon : preparer.setsNodelay = true) (hpreparer : h.life.connection.preparer = some preparer)
    {history : List Happening} (hu : h.Undisturbed history) : h.KeepsNodelay history where
  silent := by
    intro hearly task hspawned
    rw [Life.spawned_mem_iff, (sound_run hs history).unopened hearly] at hspawned
    cases hspawned
  on := by
    rintro early late rfl hearly task hspawned hoff
    exact nodelay_run hs hon hpreparer hu hearly hoff hspawned
  held := fun hestablished =>
    (sound_run hs history).secured_or_parting hestablished |>.imp_left
      fun ⟨_, hsecured⟩ => Option.isSome_of_eq_some (Connection.raw_of_secured hsecured)
  shown := by
    rintro hestablished stream hraw early late rfl hearly hoff
    have hafter := sound_run hs (early ++ late)
    rcases hafter.secured_or_parting hestablished with ⟨secured, hsecured⟩ | hbegun
    · obtain rfl : secured = stream :=
        Option.some.inj ((Connection.raw_of_secured hsecured).symm.trans hraw)
      obtain ⟨task, hspawned, rfl⟩ := hafter.tasked.secured secured hsecured
      exact nodelay_run hs hon hpreparer hu hearly hoff hspawned
    · -- The shutdown that says farewell has taken the stream.
      obtain ⟨context, hclosed⟩ := hafter.parting.parted hbegun
      simp [Connection.rawStream, hclosed, Channel.raw?] at hraw

theorem leavesOptions (hs : h.Sound) (hnone : h.life.connection.preparer = none)
    {history : List Happening} (hu : h.Undisturbed history) : h.LeavesOptions history := by
  rintro before x after rfl hown
  refine options_step (sound_run hs before) (fun hearly => ?_) hown
  exact (preparer_run hs hu.init hearly).trans hnone

/-- A stamp by an endpoint makes its preparer that of the connection. -/
theorem stamped_preparer (h : Hosted) (e : Endpoint) (hresting : h.life.activity = .resting) :
    (h.step (.move (.set (.stamp e)))).life.connection.preparer = e.preparer := by
  have hfits : h.fits (.set (.stamp e)) = true := rfl
  simp only [step, hfits, if_true, Life.step, hresting]
  rfl

/-- **Handlers are called in their places, and small packets are sent at once from the first
byte.** A binding asks the provider if it finds the connection idle and a provider is named; nothing
else does. The preparer is called once in a life, or never: a connection that has taken a stream,
with a context that serves its role, is called for a handshake, and the preparer that is named at
this call gets its handle and this stream, before the deadline is set and before there is a task.

If an endpoint whose settings send small packets at once stamps the connection before its handshake
begins, and nobody names another preparer until then, the option of the stream is on as soon as
there is a task, and until somebody sets it off. Whatever stream the owner of an established
connection looks at shows it, and there is one to look at until a shutdown takes it. If the settings
do not send small packets at once, neither the connection nor a task touches an option of any stream
of the host.

A stream that is there lets its option be set: the host does not refuse it. -/
theorem handlers_keep_discipline (handle : Handle) (now : Instant) :
    (∀ moves, let l := (Life.new handle now).run moves
      (∀ m, (l.step m).consulted = l.consulted ++ l.consults m) ∧
      (l.opening = [] ∨ Life.OpenedBy (Life.new handle now) moves l.opening)) ∧
    ∀ host before (e : Endpoint) (s : Config.HandshakeSettings) after,
      let h := (Hosted.new handle now host).run before
      let stamped := h.step (.move (.set (.stamp e)))
      h.life.activity = .resting → e.preparer = (Endpoint.ofSettings s).preparer →
      stamped.Undisturbed after →
      (s.nodelay = true → stamped.KeepsNodelay after) ∧
      (s.nodelay = false → stamped.LeavesOptions after) := by
  constructor
  · intro moves l
    exact ⟨Life.consulted_step (Life.sound_run handle now moves),
      (Life.accountable_run handle now moves).opened⟩
  · intro host before e s after h stamped hresting hsettings hu
    have hs : stamped.Sound := sound_step (sound_run (new_sound handle now host) before) _
    have hpreparer : stamped.life.connection.preparer = (Endpoint.ofSettings s).preparer :=
      (h.stamped_preparer e hresting).trans hsettings
    constructor
    · intro hnodelay
      rw [Endpoint.ofSettings, hnodelay, if_pos rfl] at hpreparer
      exact keepsNodelay hs rfl hpreparer hu
    · intro hnodelay
      rw [Endpoint.ofSettings, hnodelay, if_neg Bool.false_ne_true] at hpreparer
      exact leavesOptions hs hpreparer hu

/-- By default small packets are sent at once: a server that is stamped like this has the option of
its stream on when its task starts. -/
theorem handlers_keep_discipline_of_defaults :
    let h := (new ⟨1⟩ 0 {}).run [.traffic .dial]
    let stamped := h.step (.move (.set (.stamp (.ofSettings {}))))
    let moves : List Move := Life.bindingMoves ++ [.call .returned, .look false]
    let after := moves.map Happening.move
    h.life.activity = .resting ∧ stamped.Undisturbed after ∧ stamped.nodelay? ⟨0⟩ = some false ∧
      (stamped.run after).life.connection.phase = .handshaking ∧
      (stamped.run after).nodelay? ⟨0⟩ = some true := by
  intro h stamped moves after
  have hu : stamped.Undisturbed after := by
    refine .of_settings fun s hs => ?_
    simp only [after, moves, Life.bindingMoves, List.map_append, List.map_cons, List.map_nil,
      List.mem_append, List.mem_cons, List.not_mem_nil, or_false, Happening.move.injEq,
      Move.set.injEq, reduceCtorEq] at hs
    rw [hs]
    rfl
  have hdiscipline := (handlers_keep_discipline ⟨1⟩ 0).2 {} [.traffic .dial] (.ofSettings {}) {}
    after rfl rfl hu
  have hshaking : (stamped.run after).life.connection.phase = .handshaking := by decide +kernel
  refine ⟨rfl, hu, rfl, hshaking, ?_⟩
  have htask : ∃ a, (stamped.run after).life.activity = .attempting a ∧ a.task.stream = ⟨0⟩ :=
    ⟨_, rfl, rfl⟩
  obtain ⟨a, hattempt, hstream⟩ := htask
  have hs : stamped.Sound := sound_step (sound_run (new_sound ⟨1⟩ 0 {}) [.traffic .dial]) _
  have hspawned := (sound_run hs after).tasked.waiting a hattempt
  rw [← hstream]
  exact (hdiscipline.1 rfl).on [] after rfl (Or.inl rfl) a.task hspawned (by simp [after])

end Hosted

end BoundedTls
