import BoundedTls.Proofs.Connection.Shape

/-!
# What every life keeps

The parts of a connection fit its phase in every state that its life reaches.
-/

namespace BoundedTls

open BoundedTls.Time

namespace Life

variable {l l' : Life} {m : Move}

/-! ## What a step changes -/

/-- What is seen of a connection is never taken back. -/
theorem trace_step (s : Step l m l') : ∃ seen, l'.trace = l.trace ++ seen := by
  cases s with
  | idle | pass | finish => exact ⟨[], (List.append_nil _).symm⟩
  -- A shutdown that need not wait is seen in two parts, one after the other.
  | shut => exact ⟨_, List.append_assoc _ _ _⟩
  | _ => exact ⟨_, rfl⟩

theorem mem_trace_step (s : Step l m l') {o : Occurrence} (h : o ∈ l.trace) : o ∈ l'.trace := by
  obtain ⟨seen, heq⟩ := trace_step s
  rw [heq]
  exact List.mem_append_left _ h

/-- The path grows by the phase that a step enters. -/
theorem path_step (s : Step l m l') :
    l'.path = if l'.connection.phase = l.connection.phase then l.path
      else l.path ++ [l'.connection.phase] := by
  cases s with
  | idle | pass | finish | call => exact (if_pos rfl).symm
  | shut =>
    -- The first part of a shutdown keeps the phase.
    have hbegun : l.beginShutdown.path = l.path := if_pos rfl
    rw [← hbegun]
    rfl
  | _ => rfl

/-! ## Soundness -/

/-- The parts of the connection fit its phase, and what its owner is in the middle of fits the
connection. -/
structure Sound (l : Life) : Prop where
  shaped : l.connection.Shaped
  attempting : ∀ a, l.activity = .attempting a → l.connection.phase = .handshaking
  closing : ∀ stream, l.activity = .closing stream →
    l.connection.phase = .established ∧
      ∃ context, l.connection.channel = some ⟨context, .closed⟩

theorem new_sound (handle : Handle) (now : Instant) : (new handle now).Sound where
  shaped := Connection.new_shaped handle
  attempting := by
    intro a h
    cases h
  closing := by
    intro stream h
    cases h

/-- **Every step turns the connection by one operation.** -/
theorem step_turn (h : l.Sound) (s : Step l m l') : Connection.Turn l.connection l'.connection := by
  cases s with
  | idle | pass | finish | call | forget | giveUp | leave | drop => exact .stay
  | set s => exact .set s
  | initTransport runtime stream role => exact Connection.initTransport_turn _ _ _ _ _
  | attempt | refuse => exact Connection.start_turn h.shaped
  | resolve timerFirst hactivity hpoll =>
    exact Connection.poll_turn h.shaped (h.attempting _ hactivity) hpoll
  | release _ hpending => exact .release hpending
  | shut => exact .shut
  | farewell answer hactivity =>
    obtain ⟨hphase, context, hclosed⟩ := h.closing _ hactivity
    exact .farewell hphase hclosed

theorem sound_step (h : l.Sound) (s : Step l m l') : l'.Sound := by
  have hshaped : l'.connection.Shaped := (step_turn h s).shaped h.shaped
  cases s with
  | idle | pass | finish => exact ⟨h.shaped, h.attempting, h.closing⟩
  -- The call that begins to wait has just started the handshake.
  | attempt first hactivity hok =>
    refine ⟨hshaped, fun a _ => ?_, fun stream hclosing => by cases hclosing⟩
    exact (Connection.phase_of_start_ok h.shaped hok).2
  -- The shutdown that begins to wait has just closed the channel.
  | release hactivity hpending =>
    refine ⟨hshaped, fun a hattempting => (by cases hattempting), fun stream _ => ?_⟩
    obtain ⟨hphase, -, hclosed⟩ := Connection.released_pending h.shaped hpending
    exact ⟨hphase, hclosed⟩
  -- After every other step the owner waits for nothing.
  | set _ hactivity | initTransport _ _ _ hactivity =>
    refine ⟨hshaped, fun a hattempting => ?_, fun stream hclosing => ?_⟩
    · simp [hactivity] at hattempting
    · simp [hactivity] at hclosing
  | _ =>
    refine ⟨hshaped, fun a hattempting => ?_, fun stream hclosing => ?_⟩
    · simp at hattempting
    · simp at hclosing

/-- **Every state of every life is sound.** -/
theorem sound_run (handle : Handle) (now : Instant) (moves : List Move) :
    ((new handle now).run moves).Sound :=
  run_induction moves (new_sound handle now) fun _ _ _ _ s h => sound_step h s

end Life

end BoundedTls
