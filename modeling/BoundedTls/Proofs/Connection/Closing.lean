import BoundedTls.Proofs.Connection.Completion
import BoundedTls.Proofs.Connection.Order
import BoundedTls.Proofs.Connection.Parting
import BoundedTls.Proofs.Connection.Race

/-!
# Shutdowns that run to their end

A connection can be shut down in every phase: before it was bound, while it is ready, after a
handshake that was dropped, secured, failed or timed out, whether the late handshake still runs or
not, and again after an earlier shutdown. Each phase has parts of its own to let go of. However the
farewell to the peer ends, what is left is the same, nothing is reported to the owner, and the
shutdown is the last: another one finds nothing to do.

## Architecture

- **Frame**: what a shutdown does to the parts of a connection (`Connection.ShutDown`).
- **Waiting**: what happens while a shutdown waits for its farewell does not matter
  (`Life.happen_of_no_task`).
- **Farewells**: at most one in a life (`Life.farewells_run`).
- **Repetition**: a shutdown of a connection that is shut down changes nothing.
-/

namespace BoundedTls

open BoundedTls.Time

/-! ## Frame -/

namespace Connection

variable {c : Connection}

/-- What is left of a connection after a shutdown. -/
structure ShutDown (before after : Connection) : Prop where
  phase : after.phase = .shutdown
  noStream : after.rawStream = none ∧ after.securedStream = none
  noTask : after.abandoned = none
  calledOff : before.timerState = some .armed → after.timerState = some .cancelled
  /-- A timer that had expired, was called off before or was never armed stays as it is. -/
  untouched : before.timerState ≠ some .armed →
    after.timer = before.timer ∧ after.timerState ≠ some .armed
  kept : after.handle = before.handle ∧ after.role = before.role ∧
    after.context = before.context ∧ after.timeout = before.timeout ∧
      after.preparer = before.preparer ∧ after.provider = before.provider

theorem shutDown_released (c : Connection) :
    ShutDown c { c.released with phase := .shutdown } where
  phase := rfl
  noStream := by
    cases hchannel : c.channel with
    | none => simp [released, rawStream, securedStream, hchannel]
    | some channel =>
      simp [released, rawStream, securedStream, hchannel, Channel.close, Channel.raw?,
        Channel.secure?]
  noTask := rfl
  calledOff := by
    intro harmed
    obtain ⟨timer, htimer, hstate⟩ := Option.map_eq_some_iff.mp harmed
    simp [released, timerState, htimer, Timer.cancel, hstate]
  untouched := by
    intro hother
    cases htimer : c.timer with
    | none => simp [released, timerState, htimer]
    | some timer =>
      have hstate : timer.state ≠ .armed := by simpa [timerState, htimer] using hother
      simp [released, timerState, htimer, Timer.cancel, hstate]
  kept := by
    refine ⟨rfl, rfl, ?_, rfl, rfl, rfl⟩
    simp [released, context, Function.comp_def, Channel.close]

/-- The stream that a shutdown has to say farewell to is the secured one. -/
theorem releaseStream_eq_secured (c : Connection) :
    (releaseStream c.channel).1 = c.securedStream := by
  unfold releaseStream securedStream
  cases c.channel with
  | none => rfl
  | some channel =>
    obtain ⟨context, stage⟩ := channel
    cases stage <;> rfl

/-- Only an established connection has a secured stream. -/
theorem Shaped.established_of_secured (h : c.Shaped) {stream : StreamId}
    (hsecured : c.securedStream = some stream) : c.phase = .established := by
  rw [← releaseStream_eq_secured] at hsecured
  exact (released_pending h hsecured).1

/-- All that a shutdown does to the world, its farewell included. -/
def closing (c : Connection) (lateEnded : Bool) (answer : Except Fault Unit) : List Effect :=
  (c.beginShutdown lateEnded).2.2 ++ (c.endShutdown c.securedStream answer).2

/-- A shutdown says farewell exactly if the connection is established and has its stream. -/
theorem Shaped.farewell_iff (h : c.Shaped) (lateEnded : Bool) (answer : Except Fault Unit)
    (stream : StreamId) : .notified stream ∈ c.closing lateEnded answer ↔
      c.phase = .established ∧ c.securedStream = some stream := by
  have hend : .notified stream ∉ (c.endShutdown c.securedStream answer).2 := by
    intro hmem
    have horigin := endShutdown_origin hmem
    simp [Effect.origin?] at horigin
  rw [closing, List.mem_append, notified_mem_iff, releaseStream_eq_secured]
  constructor
  · rintro (hsecured | hmem)
    · exact ⟨h.established_of_secured hsecured, hsecured⟩
    · exact absurd hmem hend
  · intro hestablished
    exact Or.inl hestablished.2

/-- A shutdown that has to wait says farewell, and has no other effect before. -/
theorem beginShutdown_of_pending (h : c.Shaped) {stream : StreamId}
    (hpending : (releaseStream c.channel).1 = some stream) (lateEnded : Bool) :
    (c.beginShutdown lateEnded).2.2 = [.notified stream] := by
  obtain ⟨handle, role, runtime, channel, timer, timeout, phase, abandoned, preparer, provider⟩ := c
  cases h with
  | established =>
    cases hpending
    rfl
  | _ => cases hpending

/-- What a shutdown writes to the log: that a late handshake had ended, or that the farewell has
failed. -/
inductive ClosingNotice (c : Connection) (lateEnded : Bool) (answer : Except Fault Unit) :
    Log.Event → Prop where
  | late : c.phase = .timedOut → lateEnded = true →
      ClosingNotice c lateEnded answer (.lateResult c.handle)
  | failed {fault : Fault} : c.phase = .established → answer = .error fault →
      ClosingNotice c lateEnded answer (.shutdownFailed c.handle fault)

theorem Shaped.closing_log (h : c.Shaped) {lateEnded : Bool} {answer : Except Fault Unit}
    {event : Log.Event} (hlog : .log event ∈ c.closing lateEnded answer) :
    ClosingNotice c lateEnded answer event := by
  rcases List.mem_append.mp hlog with hbegin | hend
  · -- The first part writes only of a late handshake.
    have hreleased : .log event ∉ (releaseStream c.channel).2 := by
      unfold releaseStream
      split <;> simp
    cases habandoned : c.abandoned with
    | none => simp [beginShutdown, habandoned, hreleased] at hbegin
    | some task =>
      have htimedOut : c.phase = .timedOut := by
        apply h.abandoned_iff.mp
        simp [habandoned]
      cases lateEnded with
      | false => simp [beginShutdown, habandoned, hreleased] at hbegin
      | true =>
        obtain rfl : event = .lateResult c.handle := by
          simpa [beginShutdown, habandoned, hreleased] using hbegin
        exact .late htimedOut rfl
  · unfold endShutdown at hend
    cases hsecured : c.securedStream with
    | none => simp [hsecured] at hend
    | some stream =>
      cases answer with
      | ok => simp [hsecured] at hend
      | error fault =>
        obtain rfl : event = .shutdownFailed c.handle fault := by simpa [hsecured] using hend
        exact .failed (h.established_of_secured hsecured) rfl

/-- A connection that is shut down has nothing more to let go of. -/
theorem Shaped.released_of_shutdown (h : c.Shaped) (hphase : c.phase = .shutdown)
    (lateEnded : Bool) :
    c.released = c ∧ c.securedStream = none ∧ (c.beginShutdown lateEnded).2.2 = [] := by
  obtain ⟨handle, role, runtime, channel, timer, timeout, phase, abandoned, preparer, provider⟩ := c
  cases h with
  | unused => exact ⟨rfl, rfl, rfl⟩
  | shutdown _ harmed =>
    refine ⟨?_, rfl, rfl⟩
    simp [released, Timer.cancel, harmed, Channel.close]
  | _ => cases hphase

end Connection

namespace Life

variable {l l' : Life} {m : Move}

/-! ## Waiting -/

theorem step_look_of_no_call (h : l.activity.call? = none) (timerFirst : Bool) :
    l.step (.look timerFirst) = l := by
  cases hactivity : l.activity with
  | resting | closing | gone => simp [Life.step, hactivity]
  | called | attempting => simp [hactivity, Activity.call?] at h

theorem step_farewell_of_resting (h : l.activity = .resting) (answer : Except Fault Unit) :
    l.step (.farewell answer) = l := by
  simp [Life.step, h]

theorem step_farewell_of_closing {stream : StreamId} (h : l.activity = .closing stream)
    (answer : Except Fault Unit) :
    l.step (.farewell answer) = l.endShutdown (some stream) answer := by
  simp [Life.step, h]

/-- Where no task runs and no call waits, only the clock moves. -/
theorem happen_of_no_task (hcall : l.activity.call? = none) (htask : l.task? = none)
    (incidents : List Incident) : ∃ now, l.happen incidents = { l with now } := by
  -- The clock is the one part that changes on the way, so the life is general.
  induction incidents generalizing l with
  | nil => exact ⟨l.now, rfl⟩
  | cons i rest ih =>
    have hfirst : ∃ now, l.step i.move = { l with now } := by
      cases i with
      | pass nanos => exact ⟨_, step_pass l nanos⟩
      | look timerFirst => exact ⟨l.now, step_look_of_no_call hcall timerFirst⟩
      | finish result =>
        refine ⟨l.now, ?_⟩
        simp [Incident.move, Life.finish, htask]
    obtain ⟨now, hnow⟩ := hfirst
    obtain ⟨later, hlater⟩ := ih (l := { l with now }) hcall htask
    exact ⟨later, by rw [happen_cons, hnow, hlater]⟩

/-- A shutdown that runs to its end, whatever happens while it waits for its farewell. -/
def shutDown (l : Life) (meanwhile : List Incident) (answer : Except Fault Unit) : Life :=
  ((l.step .shutdown).happen meanwhile).step (.farewell answer)

/-- **What a shutdown comes to**, from whatever phase. -/
theorem shutDown_eq (hresting : l.activity = .resting) (meanwhile : List Incident)
    (answer : Except Fault Unit) :
    (l.shutDown meanwhile answer).activity = .resting ∧
      (l.shutDown meanwhile answer).connection =
        { l.connection.released with phase := .shutdown } ∧
      (l.shutDown meanwhile answer).trace =
        l.trace ++ (l.connection.closing l.ended.isSome answer).map .effect := by
  have hpending : l.farewellTo = l.connection.securedStream :=
    Connection.releaseStream_eq_secured l.connection
  unfold shutDown
  cases hfarewell : l.farewellTo with
  | none =>
    have hbegun : l.step .shutdown = l.beginShutdown.endShutdown none (.ok ()) := by
      simp [Life.step, hresting, Life.shutdown, hfarewell]
    -- The shutdown is over at once, and the late answer finds nobody who waits for it.
    obtain ⟨now, hmeanwhile⟩ := happen_of_no_task (l := l.step .shutdown)
      (by rw [hbegun]; rfl) (by rw [hbegun]; rfl) meanwhile
    have hlate : ((l.step .shutdown).happen meanwhile).step (.farewell answer) =
        { l.step .shutdown with now } := by
      rw [hmeanwhile]
      apply step_farewell_of_resting
      rw [hbegun]
      rfl
    rw [hlate, hbegun]
    refine ⟨rfl, rfl, ?_⟩
    simp [Life.endShutdown, Life.beginShutdown, Connection.closing, Connection.endShutdown,
      ← hpending, hfarewell]
  | some stream =>
    have hbegun : l.step .shutdown = { l.beginShutdown with activity := .closing stream } := by
      simp [Life.step, hresting, Life.shutdown, hfarewell]
    obtain ⟨now, hmeanwhile⟩ := happen_of_no_task (l := l.step .shutdown)
      (by rw [hbegun]; rfl) (by rw [hbegun]; rfl) meanwhile
    have hover : ((l.step .shutdown).happen meanwhile).step (.farewell answer) =
        ({ l.step .shutdown with now } : Life).endShutdown (some stream) answer := by
      rw [hmeanwhile]
      apply step_farewell_of_closing
      rw [hbegun]
    rw [hover, hbegun]
    refine ⟨rfl, rfl, ?_⟩
    simp [Life.endShutdown, Life.beginShutdown, Connection.closing, Connection.endShutdown,
      Connection.beginShutdown, ← hpending, hfarewell]

end Life

/-! ## Farewells -/

def Occurrence.isFarewell : Occurrence → Bool
  | effect (.notified _) => true
  | _ => false

namespace Life

variable {l l' : Life} {m : Move}

/-- How often a farewell was said to the peer. -/
def farewells (l : Life) : Nat :=
  l.trace.countP Occurrence.isFarewell

theorem farewellBegun_iff : l.FarewellBegun ↔ 0 < l.farewells := by
  unfold FarewellBegun farewells
  rw [List.countP_pos_iff]
  constructor
  · rintro ⟨stream, hmem⟩
    exact ⟨_, hmem, rfl⟩
  · rintro ⟨o, hmem, hfarewell⟩
    unfold Occurrence.isFarewell at hfarewell
    split at hfarewell
    · exact ⟨_, hmem⟩
    · cases hfarewell

/-- Effects of another origin are no farewells. -/
theorem farewells_of_origin {effects : List Effect}
    (h : ∀ e ∈ effects, e.origin? ≠ some .shutdown) :
    (effects.map .effect).countP Occurrence.isFarewell = 0 := by
  apply List.countP_eq_zero.mpr
  intro o ho
  obtain ⟨e, he, rfl⟩ := List.mem_map.mp ho
  cases e with
  | notified stream => exact absurd rfl (h _ he)
  | _ => simp [Occurrence.isFarewell]

theorem farewells_seen (r : Report) (call : Nat) :
    (r.seen call).countP Occurrence.isFarewell = 0 := by
  apply List.countP_eq_zero.mpr
  intro o ho
  have hcall := seen_call call ho
  cases o with
  | effect => cases hcall
  | _ => simp [Occurrence.isFarewell]

/-- Only a shutdown that has to wait says farewell, and it does so once. -/
theorem farewells_step (h : l.Sound) (s : Step l m l') :
    l'.farewells = l.farewells ∨ l.farewellTo.isSome ∧ l'.farewells = l.farewells + 1 := by
  -- What is seen of every other step has an origin of its own, or none.
  have hnone {effects : List Effect} (hall : ∀ e ∈ effects, e.origin? = none) :
      (effects.map .effect).countP Occurrence.isFarewell = 0 :=
    farewells_of_origin fun e he => by simp [hall e he]
  have hstart : ((l.connection.start l.now).effects.map .effect).countP
      Occurrence.isFarewell = 0 := by
    apply farewells_of_origin
    intro e he
    rcases Connection.start_origin he with heq | heq <;> simp [heq]
  cases s with
  | idle | pass | finish => exact Or.inl rfl
  | set s =>
    left
    simp [farewells, Life.set, hnone fun _ => Connection.put_origin]
  | initTransport runtime stream role =>
    have hbinding :
        ((l.connection.initTransport l.now runtime stream role).effects.map .effect).countP
          Occurrence.isFarewell = 0 := by
      apply farewells_of_origin
      intro e he
      rcases Connection.initTransport_origin he with heq | heq <;> simp [heq]
    left
    simp [farewells, Life.initTransport, hbinding, Occurrence.isFarewell]
  | call delivery =>
    left
    simp [farewells, Life.call, Occurrence.isFarewell]
  | attempt first =>
    left
    simp [farewells, Life.attempt, hstart, Occurrence.isFarewell]
  | refuse first =>
    left
    simp [farewells, hstart, farewells_seen]
  | resolve timerFirst hactivity hpoll =>
    have hquiet := hnone fun _ => Connection.poll_origin h.shaped (h.attempting _ hactivity) hpoll
    left
    simp [farewells, hquiet, farewells_seen]
  | forget =>
    left
    simp [farewells, farewells_seen]
  | giveUp =>
    left
    simp [farewells, Life.giveUp, Connection.giveUp, farewells_seen, Occurrence.isFarewell]
  | release hactivity hpending =>
    right
    refine ⟨by simp [hpending], ?_⟩
    have hbegun := Connection.beginShutdown_of_pending h.shaped hpending l.ended.isSome
    simp [farewells, Life.beginShutdown, hbegun, Occurrence.isFarewell]
  | shut hactivity hpending =>
    have hbegun : ((l.connection.beginShutdown l.ended.isSome).2.2.map .effect).countP
        Occurrence.isFarewell = 0 := by
      apply farewells_of_origin
      intro e he horigin
      cases e with
      | notified stream =>
        rw [Connection.notified_mem_iff] at he
        rw [show (Connection.releaseStream l.connection.channel).1 = none from hpending] at he
        cases he
      | _ => cases horigin
    left
    simp [farewells, Life.beginShutdown, Life.endShutdown, Connection.endShutdown, hbegun]
  | farewell answer =>
    left
    simp [farewells, Life.endShutdown, hnone fun _ => Connection.endShutdown_origin]
  | leave =>
    left
    simp [farewells, Life.leave, Occurrence.isFarewell]
  | drop =>
    left
    simp [farewells, Life.discard, hnone fun _ => Connection.discard_origin]

/-- **One farewell at most** is said in a life. -/
theorem farewells_run (handle : Handle) (now : Instant) (moves : List Move) :
    ((new handle now).run moves).farewells ≤ 1 := by
  have hkept : ((new handle now).run moves).Sound ∧ ((new handle now).run moves).Parting ∧
      ((new handle now).run moves).farewells ≤ 1 := by
    refine run_induction (P := fun l => l.Sound ∧ l.Parting ∧ l.farewells ≤ 1) moves
      ⟨new_sound handle now, parting_run handle now [], Nat.zero_le 1⟩ ?_
    rintro l l' m - s ⟨hsound, hparting, hone⟩
    refine ⟨sound_step hsound s, parting_step hsound s hparting, ?_⟩
    rcases farewells_step hsound s with hsame | ⟨hpending, hnext⟩
    · rw [hsame]
      exact hone
    · -- A stream that is still there was not taken by an earlier farewell.
      have hbefore : ¬ l.FarewellBegun := by
        intro hbegun
        obtain ⟨context, hclosed⟩ := hparting.parted hbegun
        simp [farewellTo, Connection.beginShutdown, Connection.releaseStream, hclosed] at hpending
      rw [farewellBegun_iff] at hbefore
      omega
  exact hkept.2.2

/-! ## Repetition -/

/-- A connection that was shut down stays so. -/
theorem shutdown_run (h : l.Sound) (hphase : l.connection.phase = .shutdown) (later : List Move) :
    (l.run later).connection.phase = .shutdown := by
  rcases rank_run h later with hsame | hhigher
  · rw [hsame, hphase]
  · rw [hphase] at hhigher
    exact absurd hhigher (Nat.not_lt_of_le (Phase.rank_le_shutdown _))

/-- Shutting down again changes nothing. -/
theorem step_shutdown_of_shutdown (h : l.Sound) (hresting : l.activity = .resting)
    (hphase : l.connection.phase = .shutdown) : l.step .shutdown = l := by
  obtain ⟨hreleased, hsecured, hnothing⟩ :=
    h.shaped.released_of_shutdown hphase l.ended.isSome
  have hfarewell : l.farewellTo = none :=
    (Connection.releaseStream_eq_secured l.connection).trans hsecured
  have hbegun : l.beginShutdown = l := by
    have hsame : (l.connection.beginShutdown l.ended.isSome).2.1 = l.connection := hreleased
    simp [Life.beginShutdown, hsame, hnothing, Life.become]
  have hended : l.connection.endShutdown none (.ok ()) = (l.connection, []) := by
    simp [Connection.endShutdown, ← hphase]
  simp only [Life.step, hresting, Life.shutdown, hfarewell, hbegun, Life.endShutdown, hended,
    Life.become]
  simp [← hresting]

/-! ## Every shutdown -/

/-- What a completed shutdown has done. -/
structure Completed (l l' : Life) (answer : Except Fault Unit) : Prop where
  resting : l'.activity = .resting
  shut : Connection.ShutDown l.connection l'.connection
  /-- The owner is told nothing: all that is seen are effects. One of them is a farewell exactly if
  there was a stream to say it to, and the log hears of a late handshake or a failed farewell. -/
  seen : ∃ effects : List Effect, l'.trace = l.trace ++ effects.map .effect ∧
    (∀ stream, .notified stream ∈ effects ↔
      l.connection.phase = .established ∧ l.connection.securedStream = some stream) ∧
    ∀ event, .log event ∈ effects →
      Connection.ClosingNotice l.connection l.ended.isSome answer event
  /-- The next shutdown is over at once, and not even the log changes. -/
  again : ∀ later, (l'.run later).activity = .resting →
    (l'.run later).step .shutdown = l'.run later

theorem Sound.completed (h : l.Sound) (hresting : l.activity = .resting)
    (meanwhile : List Incident) (answer : Except Fault Unit) :
    l.Completed (l.shutDown meanwhile answer) answer := by
  obtain ⟨hover, hconnection, htrace⟩ := shutDown_eq hresting meanwhile answer
  have hsound : (l.shutDown meanwhile answer).Sound := by
    have hmoves : l.shutDown meanwhile answer =
        l.run (.shutdown :: meanwhile.map Incident.move ++ [.farewell answer]) := by
      rw [run_append]
      rfl
    rw [hmoves]
    exact sound_of_run h _
  refine ⟨hover, ?_, ⟨_, htrace, h.shaped.farewell_iff _ _, ?_⟩, ?_⟩
  · rw [hconnection]
    exact Connection.shutDown_released l.connection
  · intro event hlog
    exact h.shaped.closing_log hlog
  · intro later hlater
    apply step_shutdown_of_shutdown (sound_of_run hsound later) hlater
    exact shutdown_run hsound (by rw [hconnection]) later

/-- **A shutdown is total, quiet and final.** In every state that the life of a connection reaches
while its owner is in the middle of nothing, a shutdown that runs to its end leaves neither a stream
nor a task nor a running timer, whatever happens while it waits for its farewell and however that
ends, and keeps the identity, the context and the settings of the connection. It says farewell
exactly if there is a secured stream, which happens at most once in a life. Every later shutdown
changes nothing. -/
theorem shutdown_is_final (handle : Handle) (now : Instant) (moves : List Move) :
    let l := (new handle now).run moves
    l.farewells ≤ 1 ∧
      (l.activity = .resting → ∀ meanwhile answer,
        l.Completed (l.shutDown meanwhile answer) answer) := by
  intro l
  refine ⟨farewells_run handle now moves, ?_⟩
  intro hresting meanwhile answer
  exact (sound_run handle now moves).completed hresting meanwhile answer

end Life

end BoundedTls
