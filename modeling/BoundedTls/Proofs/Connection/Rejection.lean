import BoundedTls.Proofs.Connection.Emission
import BoundedTls.Proofs.Connection.Story
import BoundedTls.Proofs.Connection.Transport
import BoundedTls.Proofs.Network.Configured

/-!
# Rejections

A call for a handshake is rejected if the connection is not ready, and for no other reason. All
that a handshake needs was put in place when the connection became ready and stays there: the parts
of the connection, a context for its role, the raw stream, the configuration for the task, and the
timer while the task runs. So the errors for want of any of these are never raised, and the kind of
an error tells where it comes from.

## Architecture

- **First looks**: what the first look at a call comes to (`Life.Admission`).
- **Tasks**: every task that a life starts is configured.
- **Sources**: which errors a binding, a rejected call and an attempt have (`Life.Sourced`), kept
  by every step.
-/

namespace BoundedTls

open BoundedTls.Time

/-- The error is the outcome of a handshake. -/
def ConnectionError.isOutcome : ConnectionError → Bool
  | timeout _ | rejected _ | transport _ => true
  | noProvider | unusableContext | wrongPhase _ => false

namespace Connection

variable {c : Connection} {now : Instant}

/-- Nothing is missing that the start of a handshake needs, and the channel hands its stream to a
configured task. -/
structure Equipped (c : Connection) (role : Role) (channel : Channel) (task : HandshakeTask) :
    Prop where
  plays : c.role = some role
  holds : c.channel = some channel
  timed : c.timer.isSome
  bound : c.runtime.isSome
  supports : channel.context.supports role = true
  raw : channel.stage = .raw task.stream
  handed : channel.startHandshake role = .ok (task, { channel with stage := .handshaking })
  configured : task.side.isConfigured = true

/-- A context that serves a role has the configuration for its side. -/
theorem side_isConfigured {channel : Channel} {role : Role}
    (hsupports : channel.context.supports role = true) :
    (channel.side role).isConfigured = true := by
  cases role <;> exact hsupports

/-- A ready connection is equipped, and its handshake starts. -/
theorem equipped_of_ready (h : c.Shaped) (hready : c.phase = .ready) (now : Instant) :
    ∃ role channel task, c.Equipped role channel task ∧ (c.start now).result = .ok task ∧
      (c.start now).connection = c.racing now channel.context := by
  obtain ⟨_, _, _, _, _, -, -, hruntime, -, htimer, -⟩ := h.of_ready hready
  obtain ⟨role, context, stream, hrole, hchannel, hsupports, hok, hracing⟩ :=
    start_of_ready h hready now
  refine ⟨role, ⟨context, .raw stream⟩, _, ⟨hrole, hchannel, ?_, ?_, hsupports, rfl, ?_, ?_⟩, hok,
    hracing⟩
  · simp [htimer]
  · simp [hruntime]
  · simp [Channel.startHandshake, hsupports]
  · exact side_isConfigured hsupports

/-- The errors of a binding are no outcomes. -/
theorem Refusal.not_isOutcome {role : Role} {e : ConnectionError} (h : c.Refusal role e) :
    e.isOutcome = false := by
  cases h <;> rfl

end Connection

namespace Life

variable {l l' : Life} {m : Move}

/-! ## First looks -/

/-- What the first look at a call comes to. -/
structure Admission (l : Life) (call : Nat) (delivery : Delivery) (first : Bool) : Prop where
  /-- A connection that is not ready rejects the call and stays as it is. Nothing is seen of it but
  the answer. -/
  rejected : l.connection.phase ≠ .ready →
    l.step (.look first) =
      { l with
        activity := .resting
        trace := l.trace ++ [.returned call (.error (.wrongPhase l.connection.phase))] }
  /-- A ready connection begins. -/
  begun : l.connection.phase = .ready → ∃ role channel task effects,
    l.connection.Equipped role channel task ∧
      l.step (.look first) = l.attempt call delivery task
        (l.connection.racing l.now channel.context) effects ∧
      .spawned task ∈ effects

theorem Sound.admission (h : l.Sound) {call : Nat} {delivery : Delivery}
    (hactivity : l.activity = .called call delivery) (first : Bool) :
    l.Admission call delivery first where
  rejected := by
    intro hphase
    have hstart : l.connection.start l.now =
        ⟨.error (.wrongPhase l.connection.phase), l.connection, []⟩ :=
      Connection.start_of_not_ready hphase
    simp only [Life.step, hactivity, Life.begin, hstart, Life.conclude, List.map_nil,
      List.nil_append, Report.seen, Report.refused]
    simp only [Life.become, if_true]
  begun := by
    intro hready
    obtain ⟨role, channel, task, hequipped, hok, hracing⟩ :=
      Connection.equipped_of_ready h.shaped hready l.now
    have htransfers := (Connection.start_transfers h.shaped hok).2.2.2
    refine ⟨role, channel, task, (l.connection.start l.now).effects, hequipped, ?_, ?_⟩
    · simp only [Life.step, hactivity, Life.begin, hok, hracing]
    · have hmem : Effect.spawned task ∈
          (l.connection.start l.now).effects.filter Effect.isTransfer := by
        rw [htransfers]
        exact List.mem_singleton_self _
      exact (List.mem_filter.mp hmem).1

/-! ## Tasks -/

/-- A task is started by the look that begins a call, and by nothing else. -/
theorem spawned_step (h : l.Sound) (s : Step l m l') {task : HandshakeTask}
    (hspawned : .effect (.spawned task) ∈ l'.trace) :
    .effect (.spawned task) ∈ l.trace ∨ task.side.isConfigured = true := by
  refine (effect_step h s hspawned rfl).imp_right fun hemits => ?_
  have hmem : .spawned task ∈ (l.connection.start l.now).effects := hemits.of_handshake rfl
  by_cases hready : l.connection.phase = .ready
  · -- The start hands its stream to one task only, which is the configured one.
    obtain ⟨role, channel, given, hequipped, hok, -⟩ :=
      Connection.equipped_of_ready h.shaped hready l.now
    have htransfer : .spawned task ∈ (l.connection.start l.now).effects.filter Effect.isTransfer :=
      List.mem_filter.mpr ⟨hmem, rfl⟩
    rw [(Connection.start_transfers h.shaped hok).2.2.2, List.mem_singleton] at htransfer
    cases htransfer
    exact hequipped.configured
  · rw [Connection.start_of_not_ready hready] at hmem
    cases hmem

/-! ## Sources -/

/-- An outcome that the log tells of is one by its kind. -/
theorem isOutcome_of_tells {event : Log.Event} {e : ConnectionError}
    (h : Log.Tells event (.error e)) : e.isOutcome = true := by
  cases h <;> rfl

/-- The errors that come without a handshake have causes of their own. -/
structure Unbegun (l : Life) : Prop where
  bound : ∀ e, .bound (.error e) ∈ l.trace → e.isOutcome = false
  returned : ∀ call e, .returned call (.error e) ∈ l.trace →
    .began call ∈ l.trace ∨ ∃ phase, phase ≠ .ready ∧ e = .wrongPhase phase

theorem unbegun_step (h : l.Sound) (hbooked : l.Booked) (s : Step l m l') (hunbegun : l.Unbegun) :
    l'.Unbegun := by
  have hkept (call : Nat) (e : ConnectionError) (hold : .returned call (.error e) ∈ l.trace) :
      .began call ∈ l'.trace ∨ ∃ phase, phase ≠ .ready ∧ e = .wrongPhase phase :=
    (hunbegun.returned call e hold).imp_left (mem_trace_step s)
  cases s with
  | idle | pass | finish => exact ⟨hunbegun.bound, hunbegun.returned⟩
  | initTransport runtime stream role =>
    refine ⟨fun e hbound => ?_, fun call e hreturned => hkept call e ?_⟩
    · have hnew : .bound (.error e) ∈ l.trace ∨
          .error e = (l.connection.initTransport l.now runtime stream role).result := by
        simpa [Life.initTransport] using hbound
      rcases hnew with hold | herror
      · exact hunbegun.bound e hold
      · have hatomic := Connection.initTransport_atomic l.connection l.now runtime stream role
        exact ((hatomic.error_iff e).mp herror.symm).not_isOutcome
    · simpa [Life.initTransport] using hreturned
  | @refuse other delivery e' first hactivity herror =>
    obtain ⟨hphase, hstart⟩ := Connection.start_error h.shaped herror
    obtain rfl : .wrongPhase l.connection.phase = e' := by simpa [hstart] using herror
    refine ⟨fun e hbound => hunbegun.bound e ?_, fun call e hreturned => ?_⟩
    · simpa [Report.seen, Report.refused] using hbound
    · have hnew : .returned call (.error e) ∈ l.trace ∨
          call = other ∧ e = .wrongPhase l.connection.phase := by
        simpa [hstart, Report.seen, Report.refused] using hreturned
      rcases hnew with hold | ⟨-, hsame⟩
      · exact hkept call e hold
      · exact Or.inr ⟨_, hphase, hsame⟩
  | @resolve a o timerFirst hactivity =>
    refine ⟨fun e hbound => hunbegun.bound e ?_, fun call e hreturned => ?_⟩
    · cases hdelivery : a.delivery <;>
        simpa [hdelivery, Report.seen, Report.resolved] using hbound
    · have hnew : .returned call (.error e) ∈ l.trace ∨ call = a.call := by
        rw [conclude_trace, List.mem_append, List.mem_append] at hreturned
        rcases hreturned with hold | heffect | hseen
        · exact Or.inl hold
        · simp at heffect
        · exact Or.inr (Option.some.inj (seen_call a.call hseen))
      rcases hnew with hold | rfl
      · exact hkept call e hold
      · -- The call that waits has begun.
        refine Or.inl (List.mem_append_left _ ?_)
        rw [← mem_about a.call rfl, hbooked.attempting a hactivity]
        simp
  | _ =>
    refine ⟨fun e hbound => hunbegun.bound e ?_, fun call e hreturned => hkept call e ?_⟩
    · simpa [Life.set, Life.call, Life.attempt, Life.giveUp, Life.beginShutdown, Life.endShutdown,
        Life.leave, Life.discard, Report.seen, Report.cancelled] using hbound
    · simpa [Life.set, Life.call, Life.attempt, Life.giveUp, Life.beginShutdown, Life.endShutdown,
        Life.leave, Life.discard, Report.seen, Report.cancelled] using hreturned

theorem unbegun_run (handle : Handle) (now : Instant) (moves : List Move) :
    ((new handle now).run moves).Unbegun := by
  have hkept : ((new handle now).run moves).Sound ∧ ((new handle now).run moves).Booked ∧
      ((new handle now).run moves).Unbegun := by
    refine run_induction (P := fun l => l.Sound ∧ l.Booked ∧ l.Unbegun) moves
      ⟨new_sound handle now, new_booked handle now, ⟨?_, ?_⟩⟩ ?_
    · intro e hbound
      cases hbound
    · intro call e hreturned
      cases hreturned
    · rintro l l' m - s ⟨hsound, hbooked, hunbegun⟩
      exact ⟨sound_step hsound s, booked_step s hbooked, unbegun_step hsound hbooked s hunbegun⟩
  exact hkept.2.2

/-- The kind of an error tells where it comes from. -/
structure Sourced (l : Life) : Prop where
  /-- A binding has no outcome of a handshake. -/
  bound : ∀ e, .bound (.error e) ∈ l.trace → e.isOutcome = false
  /-- A call that was rejected returns the phase, and a call that has begun an outcome. -/
  returned : ∀ call e, .returned call (.error e) ∈ l.trace →
    .began call ∉ l.trace ∧ (∃ phase, phase ≠ .ready ∧ e = .wrongPhase phase) ∨
      .began call ∈ l.trace ∧ e.isOutcome = true
  calledBack : ∀ call e, .calledBack call (.error e) ∈ l.trace →
    .began call ∈ l.trace ∧ e.isOutcome = true

theorem Candid.sourced (h : l.Candid) (hbooked : l.Booked) (hunbegun : l.Unbegun) :
    l.Sourced where
  bound := hunbegun.bound
  returned := by
    intro call e hreturned
    have hclosed := hbooked.closed_of_mem rfl hreturned (by simp) (by simp)
    by_cases hbegan : .began call ∈ l.trace
    · -- A call that has begun and returns an error was made to return its outcome.
      have hcalled : .called call .returned ∈ l.trace := by
        rw [← mem_about call rfl] at hreturned hbegan ⊢
        generalize about call l.trace = account at *
        cases hclosed <;> simp at hreturned hbegan ⊢
      obtain ⟨_, -, htells⟩ := h.logged call _ (.returned hcalled hbegan hreturned)
      exact Or.inr ⟨hbegan, isOutcome_of_tells htells⟩
    · exact Or.inl ⟨hbegan, (hunbegun.returned call e hreturned).resolve_left hbegan⟩
  calledBack := by
    intro call e hback
    obtain ⟨_, -, htells⟩ := h.logged call _ (.calledBack hback)
    exact ⟨(hbooked.of_delivered (.calledBack hback)).1, isOutcome_of_tells htells⟩

/-! ## Every life -/

theorem spawned_run (handle : Handle) (now : Instant) (moves : List Move) {task : HandshakeTask}
    (hspawned : .effect (.spawned task) ∈ ((new handle now).run moves).trace) :
    task.side.isConfigured = true := by
  have hkept : ((new handle now).run moves).Sound ∧
      (.effect (.spawned task) ∈ ((new handle now).run moves).trace →
        task.side.isConfigured = true) := by
    refine run_induction (P := fun l => l.Sound ∧
      (.effect (.spawned task) ∈ l.trace → task.side.isConfigured = true)) moves
      ⟨new_sound handle now, fun hnone => by cases hnone⟩ ?_
    rintro l l' m - s ⟨hsound, hold⟩
    exact ⟨sound_step hsound s, fun hmem => (spawned_step hsound s hmem).elim hold id⟩
  exact hkept.2 hspawned

/-- **A call is rejected for its phase alone.** In every state that the life of a connection
reaches, a call that finds the connection ready begins, with all that it needs at hand, and a call
that does not is told the phase and changes nothing. While a call waits for its handshake the timer
counts down. The task of the handshake has its configuration, and never ends for want of it as long
as it runs, in whatever company. So bindings alone complain about the provider and the context, and
an outcome is that of a handshake that has begun. -/
theorem rejected_for_phase_alone (handle : Handle) (now : Instant) (moves : List Move) :
    let l := (new handle now).run moves
    (∀ call delivery, l.activity = .called call delivery → ∀ first,
      l.Admission call delivery first) ∧
    (∀ a, l.activity = .attempting a →
      ∃ deadline, l.connection.timer = some ⟨deadline, .armed⟩) ∧
    (∀ history : List Occasion,
      (∀ task, .started task ∈ history →
        .effect (.spawned task) ∈ l.trace ∨ task.side.isConfigured = true) →
      ∀ t ∈ history.foldl attend [], t.Configured) ∧
    l.Sourced := by
  intro l
  have hsound : l.Sound := sound_run handle now moves
  refine ⟨fun call delivery hactivity first => hsound.admission hactivity first, ?_, ?_, ?_⟩
  · intro a hactivity
    obtain ⟨_, _, _, deadline, -, -, -, -, htimer, -⟩ :=
      hsound.shaped.of_handshaking (hsound.attempting a hactivity)
    exact ⟨deadline, htimer⟩
  · intro history hstarted
    apply attendAll_configured (by simp)
    intro task hmem
    exact (hstarted task hmem).elim (spawned_run handle now moves) id
  · exact (candid_run handle now moves).sourced (booked_run handle now moves)
      (unbegun_run handle now moves)

end Life

end BoundedTls
