import BoundedTls.Proofs.Connection.Emission

/-!
# Shutdowns that are cut short

A shutdown takes the secured stream out of the connection, says farewell to the peer, and records
the phase when the farewell is over. A peer that does not read can hold it up for ever, so its owner
may drop it. The stream is gone then, and the connection still says that it is established.

Main statement: the phase tells the truth about the streams as long as no farewell has begun, and
again once the connection is shut down; between the two it does not. A later shutdown ends well.
-/

namespace BoundedTls

open BoundedTls.Time

namespace Connection

variable {c c' : Connection}

/-- The connection has the streams that its phase promises. -/
structure Truthful (c : Connection) : Prop where
  ready : c.phase = .ready → c.rawStream.isSome
  established : c.phase = .established → c.securedStream.isSome

/-- A shutdown has taken the stream of the connection. -/
def Parted (c : Connection) : Prop :=
  ∃ context, c.channel = some ⟨context, .closed⟩

/-- A ready connection has its raw stream. -/
theorem Shaped.raw_of_ready (h : c.Shaped) (hready : c.phase = .ready) : c.rawStream.isSome := by
  obtain ⟨_, _, _, _, _, -, -, -, hchannel, -, -⟩ := h.of_ready hready
  simp [rawStream, hchannel, Channel.raw?]

/-- Only a stream that was taken too early breaks the promise. -/
theorem Shaped.truthful_iff (h : c.Shaped) : c.Truthful ↔ c.Whole := by
  constructor
  · -- Of the shapes without a stream, only the one that was cut short is still established.
    rintro ⟨-, hestablished⟩ context hclosed
    obtain ⟨handle, role, runtime, channel, timer, timeout, phase, abandoned, preparer,
      provider⟩ := c
    cases h with
    | cutShort => simp [securedStream, Channel.secure?] at hestablished
    | shutdown => rfl
    | _ => cases hclosed
  · intro hwhole
    refine ⟨h.raw_of_ready, fun hestablished => ?_⟩
    have htidy := h.tidy hwhole
    simp only [Tidy, hestablished] at htidy
    obtain ⟨stream, -, hsecured, -⟩ := htidy
    simp [hsecured]

/-- A shutdown says farewell to the stream that it has to wait for, and to no other. -/
theorem notified_mem_iff (c : Connection) (lateEnded : Bool) (stream : StreamId) :
    .notified stream ∈ (c.beginShutdown lateEnded).2.2 ↔
      (releaseStream c.channel).1 = some stream := by
  have hreleased : .notified stream ∈ (releaseStream c.channel).2 ↔
      (releaseStream c.channel).1 = some stream := by
    unfold releaseStream
    split
    · simp
    · simp [eq_comm]
    · simp
  rw [← hreleased]
  cases habandoned : c.abandoned with
  | none => simp [beginShutdown, habandoned]
  | some task => cases lateEnded <;> simp [beginShutdown, habandoned]

/-- A stream that was taken does not come back. -/
theorem Turn.parted (turn : Turn c c') (h : c.Shaped) (hparted : c.Parted) : c'.Parted := by
  obtain ⟨context, hclosed⟩ := hparted
  cases turn with
  | stay | farewell => exact ⟨context, hclosed⟩
  | set s => exact ⟨context, by simpa using hclosed⟩
  | release | shut => exact ⟨context, by simp [released, hclosed, Channel.close]⟩
  | bind _ _ _ hidle => simp [(h.of_idle hidle).2.2.1] at hclosed
  | begin _ _ hchannel => simp [hchannel] at hclosed
  | conclude _ hphase | expire _ _ hphase =>
    obtain ⟨_, _, _, _, _, _, _, hchannel, _⟩ := h.of_handshaking hphase
    simp [hchannel] at hclosed

end Connection

namespace Life

variable {l l' : Life} {m : Move}

/-- A shutdown has begun to say farewell to the peer. -/
def FarewellBegun (l : Life) : Prop :=
  ∃ stream, .effect (.notified stream) ∈ l.trace

/-- A farewell begins with a shutdown that has to wait for it. -/
theorem farewellBegun_step (h : l.Sound) (s : Step l m l') (hbegun : l'.FarewellBegun) :
    l.FarewellBegun ∨ ∃ stream, l'.activity = .closing stream := by
  obtain ⟨stream, hnotified⟩ := hbegun
  rcases effect_step h s hnotified rfl with hold | hemits
  · exact Or.inl ⟨stream, hold⟩
  · obtain ⟨rfl, hmem⟩ := hemits.of_shutdown rfl
    rw [Connection.notified_mem_iff] at hmem
    cases s with
    | idle => exact Or.inl ⟨stream, hnotified⟩
    | release => exact Or.inr ⟨_, rfl⟩
    -- A shutdown that is over at once had no stream to say farewell to.
    | shut _ hnone =>
      rw [show (Connection.releaseStream l.connection.channel).1 = none from hnone] at hmem
      cases hmem

/-- Streams are taken by farewells, and by shutdowns that record at once what they have done. -/
structure Parting (l : Life) : Prop where
  parted : l.FarewellBegun → l.connection.Parted
  begun : l.connection.Whole ∨ l.FarewellBegun

theorem parting_step (h : l.Sound) (s : Step l m l') (hparting : l.Parting) : l'.Parting where
  parted := by
    intro hbegun
    rcases farewellBegun_step h s hbegun with hold | ⟨stream, hclosing⟩
    · exact (step_turn h s).parted h.shaped (hparting.parted hold)
    · exact ((sound_step h s).closing stream hclosing).2
  begun := by
    rcases hparting.begun with hwhole | ⟨stream, hnotified⟩
    · cases s with
      | set s => exact Or.inl (Connection.put_whole hwhole s)
      | initTransport runtime stream role =>
        exact Or.inl (Connection.initTransport_whole hwhole _ _ _ _)
      | attempt | refuse => exact Or.inl (Connection.start_whole h.shaped hwhole _)
      | resolve timerFirst hactivity hpoll =>
        exact Or.inl (Connection.poll_whole h.shaped (h.attempting _ hactivity) hpoll)
      -- The stream is taken here, and the phase follows only when the farewell is over.
      | @release stream hactivity hfarewell =>
        refine Or.inr ⟨stream, List.mem_append_right _ (List.mem_map_of_mem ?_)⟩
        exact (Connection.notified_mem_iff _ _ _).mpr hfarewell
      | shut | farewell => exact Or.inl fun _ _ => rfl
      | idle | pass | finish | call | forget | giveUp | leave | drop => exact Or.inl hwhole
    · exact Or.inr ⟨stream, mem_trace_step s hnotified⟩

theorem parting_run (handle : Handle) (now : Instant) (moves : List Move) :
    ((new handle now).run moves).Parting := by
  have hkept : ((new handle now).run moves).Sound ∧ ((new handle now).run moves).Parting := by
    refine run_induction (P := fun l => l.Sound ∧ l.Parting) moves
      ⟨new_sound handle now, ⟨?_, Or.inl ?_⟩⟩ ?_
    · rintro ⟨stream, hnotified⟩
      cases hnotified
    · intro context hclosed
      cases hclosed
    · rintro l l' m - s ⟨hsound, hparting⟩
      exact ⟨sound_step hsound s, parting_step hsound s hparting⟩
  exact hkept.2

/-! ## Every life -/

/-- **The phase is right unless a farewell is unfinished.** -/
theorem Parting.truthful_iff (h : l.Parting) (hsound : l.Sound) :
    l.connection.Truthful ↔ (l.FarewellBegun → l.connection.phase = .shutdown) := by
  rw [hsound.shaped.truthful_iff]
  constructor
  · intro hwhole hbegun
    obtain ⟨context, hclosed⟩ := h.parted hbegun
    exact hwhole context hclosed
  · intro hover
    rcases h.begun with hwhole | hbegun
    · exact hwhole
    · exact fun _ _ => hover hbegun

/-- What is left when the owner drops a pending shutdown. -/
structure CutShort (l : Life) : Prop where
  resting : l.activity = .resting
  established : l.connection.phase = .established
  /-- Neither view of the stream is there. -/
  empty : l.connection.rawStream = none ∧ l.connection.securedStream = none
  untruthful : ¬ l.connection.Truthful

theorem Sound.cutShort (h : l.Sound) {stream : StreamId} (hclosing : l.activity = .closing stream) :
    (l.step .leave).CutShort := by
  obtain ⟨hphase, context, hclosed⟩ := h.closing stream hclosing
  have hstep : l.step .leave = l.leave stream := by simp [Life.step, hclosing]
  have hsecured : l.connection.securedStream = none := by
    simp [Connection.securedStream, hclosed, Channel.secure?]
  rw [hstep]
  -- Leaving closes the stream in hand and touches nothing of the connection.
  refine ⟨rfl, hphase, ⟨?_, hsecured⟩, fun htruthful => ?_⟩
  · simp [Life.leave, Connection.rawStream, hclosed, Channel.raw?]
  · have hsome : l.connection.securedStream.isSome := htruthful.established hphase
    simp [hsecured] at hsome

/-- The shutdown is over, and the connection says so. -/
def IsShutDown (l : Life) : Prop :=
  l.activity = .resting ∧ l.connection.phase = .shutdown

theorem farewell_isShutDown {stream : StreamId} (hclosing : l.activity = .closing stream)
    (answer : Except Fault Unit) : (l.step (.farewell answer)).IsShutDown := by
  simp [IsShutDown, Life.step, hclosing, Life.endShutdown, Connection.endShutdown]

/-- A shutdown is over at once, or waits for its farewell. -/
theorem shutdown_cases (hresting : l.activity = .resting) :
    (l.step .shutdown).IsShutDown ∨ ∃ stream, l.farewellTo = some stream ∧
      (l.step .shutdown).activity = .closing stream := by
  cases hfarewell : l.farewellTo with
  | none =>
    refine Or.inl ?_
    simp [IsShutDown, Life.step, hresting, Life.shutdown, hfarewell, Life.endShutdown,
      Connection.endShutdown]
  | some stream =>
    exact Or.inr ⟨stream, rfl, by simp [Life.step, hresting, Life.shutdown, hfarewell]⟩

/-- There is nothing to wait for where the stream was taken before. -/
theorem Sound.shutdown_after_leave (h : l.Sound) {stream : StreamId}
    (hclosing : l.activity = .closing stream) : ((l.step .leave).step .shutdown).IsShutDown := by
  obtain ⟨-, context, hclosed⟩ := h.closing stream hclosing
  have hstep : l.step .leave = l.leave stream := by simp [Life.step, hclosing]
  rw [hstep]
  rcases shutdown_cases (l := l.leave stream) rfl with hover | ⟨other, hfarewell, -⟩
  · exact hover
  · simp [Life.leave, Life.farewellTo, Connection.beginShutdown, Connection.releaseStream,
      hclosed] at hfarewell

/-- **The phase tells the truth about the streams unless a farewell is unfinished.** In every state
that the life of a connection reaches, its phase promises no stream that is not there, except
between the beginning of a farewell and the end of a shutdown. A shutdown that is dropped meanwhile
leaves an established connection without a stream; a connection that is ready always has its own.
Whatever came before, a shutdown that runs to its end leaves the connection shut down, and after one
that was dropped it need not wait. -/
theorem truthful_unless_farewell_unfinished (handle : Handle) (now : Instant) (moves : List Move) :
    let l := (new handle now).run moves
    (l.connection.Truthful ↔ (l.FarewellBegun → l.connection.phase = .shutdown)) ∧
    (l.connection.phase = .ready → l.connection.rawStream.isSome) ∧
    (∀ stream, l.activity = .closing stream →
      (l.step .leave).CutShort ∧ ((l.step .leave).step .shutdown).IsShutDown ∧
        ∀ answer, (l.step (.farewell answer)).IsShutDown) ∧
    (l.activity = .resting → (l.step .shutdown).IsShutDown ∨
      ∃ stream, (l.step .shutdown).activity = .closing stream) := by
  intro l
  have hsound : l.Sound := sound_run handle now moves
  refine ⟨(parting_run handle now moves).truthful_iff hsound, hsound.shaped.raw_of_ready, ?_, ?_⟩
  · intro stream hclosing
    exact ⟨hsound.cutShort hclosing, hsound.shutdown_after_leave hclosing,
      farewell_isShutDown hclosing⟩
  · intro hresting
    exact (shutdown_cases hresting).imp_right fun ⟨stream, _, hclosing⟩ => ⟨stream, hclosing⟩

/-- A server is secured, its owner begins to shut it down and drops the shutdown: the connection is
established, and has no stream. -/
theorem established_without_stream :
    let l := (new ⟨1⟩ 0).run (bindingMoves ++ [.call .returned, .look false,
      .finish (.secured ⟨0⟩), .look false, .shutdown, .leave])
    l.activity = .resting ∧ l.connection.phase = .established ∧
      l.connection.rawStream = none ∧ l.connection.securedStream = none ∧
      ¬ l.connection.Truthful := by
  refine ⟨rfl, rfl, rfl, rfl, fun htruthful => ?_⟩
  cases htruthful.established rfl

end Life

end BoundedTls
