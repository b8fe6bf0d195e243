import BoundedTls.Proofs.Connection.Consistency

/-!
# Where effects come from

A provider is asked by a binding, a deadline is set and a task started by the look that begins a
handshake, and a peer is told farewell by a shutdown. No other operation of a connection does any of
this, so a life in which it was seen has made that move.
-/

namespace BoundedTls

open BoundedTls.Time

/-- The operations with effects that no other operation has. -/
inductive Origin where
  | binding
  | handshake
  | shutdown
deriving DecidableEq, Repr

/-- The one operation that has the effect, if there is only one. -/
def Effect.origin? : Effect → Option Origin
  | asked _ _ => some .binding
  | prepared _ _ _ | armed _ | spawned _ => some .handshake
  | notified _ => some .shutdown
  | log _ | aborted _ | closed _ => none

namespace Connection

variable {c : Connection} {now : Instant} {e : Effect}

/-! ## Operations -/

theorem put_origin {s : Setting} (he : e ∈ (s.put c).2) : e.origin? = none := by
  cases s with
  | stamp => rw [List.mem_singleton.mp he]; rfl
  | handle | timeout | preparer | provider => cases he

theorem initTransport_origin {runtime : Runtime} {stream : StreamId} {role : Role}
    (he : e ∈ (c.initTransport now runtime stream role).effects) :
    e.origin? = none ∨ e.origin? = some .binding := by
  unfold initTransport at he
  split at he
  · simp_all [Effect.origin?]
  · split at he
    · simp only [List.mem_cons, List.not_mem_nil, or_false] at he
      rcases he with rfl | rfl <;> exact Or.inl rfl
    · simp only at he
      split at he
      all_goals
        simp only [List.mem_cons, List.not_mem_nil, or_false] at he
        rcases he with rfl | rfl
        · exact Or.inr rfl
        · exact Or.inl rfl

theorem start_origin (he : e ∈ (c.start now).effects) :
    e.origin? = none ∨ e.origin? = some .handshake := by
  unfold start at he
  split at he
  · cases he
  · split at he
    · extract_lets prepared timer before at he
      -- Whether the start succeeds or not, the stream is prepared and the deadline set before.
      have hbefore {e : Effect} (he : e ∈ before) : e.origin? = some .handshake := by
        rcases List.mem_append.mp he with hprepared | harmed
        · simp only [prepared] at hprepared
          split at hprepared
          · rw [List.mem_singleton.mp hprepared]; rfl
          · cases hprepared
        · rw [List.mem_singleton.mp harmed]; rfl
      split at he
      · rcases List.mem_append.mp he with hprepared | hstarted
        · exact Or.inr (hbefore hprepared)
        · simp only [List.mem_cons, List.not_mem_nil, or_false] at hstarted
          rcases hstarted with rfl | rfl
          · exact Or.inr rfl
          · exact Or.inl rfl
      · exact Or.inr (hbefore he)
    · cases he

theorem conclude_origin {result : TaskResult} (he : e ∈ (c.conclude result).effects) :
    e.origin? = none := by
  cases result <;> (rw [List.mem_singleton.mp he]; rfl)

/-- A race ends with a result or with the timer, and either end only tells of itself. -/
theorem poll_origin (h : c.Shaped) (hphase : c.phase = .handshaking) {task : HandshakeTask}
    {ended : Option TaskResult} {timerFirst : Bool} {o : Outcome Unit}
    (hpoll : c.poll task now ended timerFirst = some o) (he : e ∈ o.effects) :
    e.origin? = none := by
  obtain ⟨_, _, _, deadline, _, _, _, _, htimer, _⟩ := h.of_handshaking hphase
  rcases poll_eq_some htimer hpoll with ⟨result, -, rfl⟩ | ⟨-, rfl⟩
  · exact conclude_origin he
  · rw [List.mem_singleton.mp he]; rfl

theorem beginShutdown_origin {lateEnded : Bool} (he : e ∈ (c.beginShutdown lateEnded).2.2) :
    e.origin? = none ∨ e.origin? = some .shutdown := by
  unfold beginShutdown at he
  rcases List.mem_append.mp he with hdropped | hreleased
  · refine Or.inl ?_
    cases habandoned : c.abandoned with
    | none => simp [habandoned] at hdropped
    | some task =>
      cases lateEnded <;> simp [habandoned] at hdropped
      · rw [hdropped]; rfl
      · rcases hdropped with rfl | rfl <;> rfl
  · unfold releaseStream at hreleased
    split at hreleased
    · rw [List.mem_singleton.mp hreleased]; exact Or.inl rfl
    · rw [List.mem_singleton.mp hreleased]; exact Or.inr rfl
    · cases hreleased

theorem endShutdown_origin {pending : Option StreamId} {farewell : Except Fault Unit}
    (he : e ∈ (c.endShutdown pending farewell).2) : e.origin? = none := by
  unfold endShutdown at he
  simp only at he
  split at he
  · rw [List.mem_singleton.mp he]; rfl
  · simp only [List.mem_cons, List.not_mem_nil, or_false] at he
    rcases he with rfl | rfl <;> rfl
  · cases he

theorem discard_origin (he : e ∈ c.discard) : e.origin? = none := by
  rcases List.mem_append.mp he with htask | hstream
  · obtain ⟨_, -, rfl⟩ := List.mem_map.mp htask
    rfl
  · obtain ⟨_, -, rfl⟩ := List.mem_map.mp hstream
    rfl

end Connection

/-! ## Moves -/

namespace Life

variable {l l' : Life} {m : Move} {e : Effect}

/-- The effect is one of the operation that the move asks for. -/
inductive Emits (l : Life) (e : Effect) : Move → Prop where
  | binding (runtime : Runtime) (stream : StreamId) (role : Role) :
      e ∈ (l.connection.initTransport l.now runtime stream role).effects →
      Emits l e (.initTransport runtime stream role)
  | handshake (first : Bool) : e ∈ (l.connection.start l.now).effects → Emits l e (.look first)
  | shutdown : e ∈ (l.connection.beginShutdown l.ended.isSome).2.2 → Emits l e .shutdown

theorem Emits.of_handshake (h : l.Emits e m) (horigin : e.origin? = some .handshake) :
    e ∈ (l.connection.start l.now).effects := by
  cases h with
  | binding runtime stream role hmem =>
    rcases Connection.initTransport_origin hmem with heq | heq <;> simp [heq] at horigin
  | handshake first hmem => exact hmem
  | shutdown hmem =>
    rcases Connection.beginShutdown_origin hmem with heq | heq <;> simp [heq] at horigin

theorem Emits.of_shutdown (h : l.Emits e m) (horigin : e.origin? = some .shutdown) :
    m = .shutdown ∧ e ∈ (l.connection.beginShutdown l.ended.isSome).2.2 := by
  cases h with
  | binding runtime stream role hmem =>
    rcases Connection.initTransport_origin hmem with heq | heq <;> simp [heq] at horigin
  | handshake first hmem =>
    rcases Connection.start_origin hmem with heq | heq <;> simp [heq] at horigin
  | shutdown hmem => exact ⟨rfl, hmem⟩

/-- **An effect of one operation only is seen of the move that asks for it.** -/
theorem effect_step (h : l.Sound) (s : Step l m l') (he : .effect e ∈ l'.trace)
    (horigin : e.origin?.isSome) : .effect e ∈ l.trace ∨ l.Emits e m := by
  -- What every operation may have tells nothing.
  have hnone {effects : List Effect} (hall : ∀ e ∈ effects, e.origin? = none) : e ∉ effects := by
    intro hmem
    simp [hall e hmem] at horigin
  cases s with
  | idle | pass | finish => exact Or.inl he
  | set s =>
    refine Or.inl ?_
    simpa [Life.set, hnone fun _ => Connection.put_origin] using he
  | initTransport runtime stream role =>
    have hnew : .effect e ∈ l.trace ∨
        e ∈ (l.connection.initTransport l.now runtime stream role).effects := by
      simpa [Life.initTransport] using he
    exact hnew.imp_right (.binding runtime stream role)
  | attempt first =>
    have hnew : .effect e ∈ l.trace ∨ e ∈ (l.connection.start l.now).effects := by
      simpa [Life.attempt] using he
    exact hnew.imp_right (.handshake first)
  | refuse first hactivity herror =>
    have hnew : .effect e ∈ l.trace ∨ e ∈ (l.connection.start l.now).effects := by
      simpa [Report.seen, Report.refused] using he
    exact hnew.imp_right (.handshake first)
  | @resolve a o timerFirst hactivity hpoll =>
    have hquiet : ∀ e ∈ o.effects, e.origin? = none := by
      intro e hmem
      exact Connection.poll_origin h.shaped (h.attempting _ hactivity) hpoll hmem
    refine Or.inl ?_
    cases hdelivery : a.delivery <;>
      simpa [hnone hquiet, hdelivery, Report.resolved, Report.seen] using he
  | release =>
    have hnew : .effect e ∈ l.trace ∨ e ∈ (l.connection.beginShutdown l.ended.isSome).2.2 := by
      simpa [Life.beginShutdown] using he
    exact hnew.imp_right .shutdown
  | shut =>
    have hnew : .effect e ∈ l.trace ∨ e ∈ (l.connection.beginShutdown l.ended.isSome).2.2 := by
      simpa [Life.beginShutdown, Life.endShutdown, Connection.endShutdown] using he
    exact hnew.imp_right .shutdown
  | farewell answer =>
    refine Or.inl ?_
    simpa [Life.endShutdown, hnone fun _ => Connection.endShutdown_origin] using he
  | drop =>
    refine Or.inl ?_
    simpa [Life.discard, hnone fun _ => Connection.discard_origin] using he
  | call | forget =>
    refine Or.inl ?_
    simpa [Life.call, Report.seen, Report.cancelled] using he
  -- Calls that are dropped and shutdowns that are cut short have one effect each, and it is
  -- another.
  | @giveUp a =>
    have hother : e ≠ .aborted a.task := by
      rintro rfl
      simp [Effect.origin?] at horigin
    refine Or.inl ?_
    simpa [Life.giveUp, Connection.giveUp, Report.seen, Report.cancelled, hother] using he
  | @leave stream =>
    have hother : e ≠ .closed stream := by
      rintro rfl
      simp [Effect.origin?] at horigin
    exact Or.inl (by simpa [Life.leave, hother] using he)

end Life

end BoundedTls
