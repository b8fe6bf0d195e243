import BoundedTls.Proofs.Connection.Ledger
import BoundedTls.Proofs.Connection.Rejection

/-!
# Callback or answer

A call for a handshake hands its outcome to a callback, or returns it. The two ways are one
operation: of two lives that differ in how one call was made, each goes through what the other goes
through, and what the callback is told in the one is what the call returns in the other.

## Architecture

- **Pasts**: what an operation does never depends on what was seen before (`Life.step_after`).
- **Twins**: two lives that differ in how one call was made, with the two accounts of that call side
  by side (`Life.Paired`). Every move keeps them twins (`Life.Twins.step`).
- **Verdicts**: an outcome says whether there was a handshake at all, and in which phase it has left
  the connection (`Phase.Reflects`).
-/

namespace BoundedTls

open BoundedTls.Time

namespace Life

variable {l l' a b : Life} {m : Move} {call : Nat}

/-! ## The past is not read -/

/-- The same life, with more seen before it. -/
def after (l : Life) (past : List Occurrence) : Life :=
  { l with trace := past ++ l.trace }

section

variable (l : Life) (past : List Occurrence)

@[simp] theorem after_connection : (l.after past).connection = l.connection := rfl

@[simp] theorem after_now : (l.after past).now = l.now := rfl

@[simp] theorem after_activity : (l.after past).activity = l.activity := rfl

@[simp] theorem after_ended : (l.after past).ended = l.ended := rfl

@[simp] theorem after_trace : (l.after past).trace = past ++ l.trace := rfl

@[simp] theorem after_task? : (l.after past).task? = l.task? := rfl

@[simp] theorem after_farewellTo : (l.after past).farewellTo = l.farewellTo := rfl

theorem become_after (c : Connection) (seen : List Occurrence) :
    (l.after past).become c seen = (l.become c seen).after past := by
  simp only [become, after, List.append_assoc]
  rfl

theorem finish_after (result : TaskResult) :
    (l.after past).finish result = (l.finish result).after past := by
  unfold Life.finish
  simp only [after_task?, after_ended]
  split
  · split <;> rfl
  · rfl

theorem set_after (s : Setting) : (l.after past).set s = (l.set s).after past :=
  become_after ..

theorem initTransport_after (runtime : Runtime) (stream : StreamId) (role : Role) :
    (l.after past).initTransport runtime stream role =
      (l.initTransport runtime stream role).after past :=
  become_after ..

theorem call_after (delivery : Delivery) :
    (l.after past).call delivery = (l.call delivery).after past := by
  simp [Life.call, after, List.append_assoc]

theorem conclude_after (call : Nat) (c : Connection) (effects : List Effect) (r : Report) :
    (l.after past).conclude call c effects r = (l.conclude call c effects r).after past := by
  simp only [Life.conclude, become_after]
  rfl

theorem begin_after (call : Nat) (delivery : Delivery) :
    (l.after past).begin call delivery = (l.begin call delivery).after past := by
  simp only [Life.begin, after_connection, after_now]
  split
  · simp only [Life.attempt, become_after]
    rfl
  · exact conclude_after ..

theorem look_after (attempt : Attempt) (timerFirst : Bool) :
    (l.after past).look attempt timerFirst = (l.look attempt timerFirst).after past := by
  simp only [Life.look, after_connection, after_now, after_ended]
  split
  · rfl
  · exact conclude_after ..

theorem endShutdown_after (pending : Option StreamId) (farewell : Except Fault Unit) :
    (l.after past).endShutdown pending farewell =
      (l.endShutdown pending farewell).after past := by
  simp only [Life.endShutdown, after_connection, become_after]
  rfl

theorem beginShutdown_after : (l.after past).beginShutdown = l.beginShutdown.after past :=
  become_after ..

theorem shutdown_after : (l.after past).shutdown = l.shutdown.after past := by
  simp only [Life.shutdown, after_farewellTo, beginShutdown_after]
  split
  · rfl
  · exact endShutdown_after ..

theorem leave_after (stream : StreamId) :
    (l.after past).leave stream = (l.leave stream).after past := by
  simp only [Life.leave, after_connection, become_after]
  rfl

theorem discard_after : (l.after past).discard = l.discard.after past := by
  simp only [Life.discard, after_connection, become_after]
  rfl

/-- **What a move does never depends on what was seen before.** -/
theorem step_after (m : Move) : (l.after past).step m = (l.step m).after past := by
  unfold Life.step
  simp only [after_activity]
  split
  · rfl
  · exact finish_after ..
  · exact set_after ..
  · exact initTransport_after ..
  · exact call_after ..
  · exact begin_after ..
  · exact conclude_after ..
  · exact look_after ..
  · exact conclude_after ..
  · exact shutdown_after ..
  · exact endShutdown_after ..
  · exact leave_after ..
  · exact discard_after ..
  · rfl

end

/-! ## Twins -/

/-- What was seen that is not about one call. -/
def besides (call : Nat) (os : List Occurrence) : List Occurrence :=
  os.filter fun o => o.call? ≠ some call

@[simp] theorem besides_append (os later : List Occurrence) :
    besides call (os ++ later) = besides call os ++ besides call later :=
  List.filter_append ..

theorem besides_seen (r : Report) : besides call (r.seen call) = [] := by
  apply List.filter_eq_nil_iff.mpr
  intro o ho
  simp [seen_call call ho]

/-- The accounts of a call that is over, made with a callback and made to return its outcome. -/
inductive Settlement (call : Nat) : List Occurrence → List Occurrence → Prop where
  | refused (e : ConnectionError) :
      Settlement call [.called call .callback, .returned call (.error e)]
        [.called call .returned, .returned call (.error e)]
  | forgotten :
      Settlement call [.called call .callback, .dropped call]
        [.called call .returned, .dropped call]
  | givenUp :
      Settlement call [.called call .callback, .began call, .dropped call]
        [.called call .returned, .began call, .dropped call]
  | resolved (outcome : Except ConnectionError Unit) :
      Settlement call
        [.called call .callback, .began call, .calledBack call outcome, .returned call (.ok ())]
        [.called call .returned, .began call, .returned call outcome]

/-- What the owners of two connections are in the middle of, and the accounts of the call that was
made with a callback in the first life and to return its outcome in the second. -/
inductive Paired (call : Nat) :
    Activity → Activity → List Occurrence → List Occurrence → Prop where
  | called :
      Paired call (.called call .callback) (.called call .returned) [.called call .callback]
        [.called call .returned]
  | attempting (task : HandshakeTask) :
      Paired call (.attempting ⟨call, .callback, task⟩) (.attempting ⟨call, .returned, task⟩)
        [.called call .callback, .began call] [.called call .returned, .began call]
  | settled {activity : Activity} {account account' : List Occurrence} :
      activity.call? ≠ some call → Settlement call account account' →
      Paired call activity activity account account'

/-- Two lives that differ in how one call was made, and in nothing else. -/
structure Twins (call : Nat) (a b : Life) : Prop where
  same : b = { a with activity := b.activity, trace := b.trace }
  made : call < a.calls
  others : besides call b.trace = besides call a.trace
  paired : Paired call a.activity b.activity (about call a.trace) (about call b.trace)

/-- A call that is made in two ways makes twins of one life. -/
theorem Booked.twins (h : l.Booked) (hresting : l.activity = .resting) :
    Twins l.calls (l.call .callback) (l.call .returned) where
  same := rfl
  made := Nat.lt_succ_self _
  others := by
    simp [Life.call, besides, Occurrence.call?]
  paired := by
    rw [(h.call hresting .callback).called l.calls .callback rfl,
      (h.call hresting .returned).called l.calls .returned rfl]
    exact .called

namespace Twins

/-- The call comes to its end, with a report of its own in each life. -/
theorem conclude (h : Twins call a b) (c : Connection) (effects : List Effect) {r r' : Report}
    (hsettled : Settlement call (about call a.trace ++ r.seen call)
      (about call b.trace ++ r'.seen call)) :
    Twins call (a.conclude call c effects r) (b.conclude call c effects r') where
  same := by
    obtain ⟨connection, now, activity, ended, calls, path, trace⟩ := b
    cases h.same
    rfl
  made := h.made
  others := by
    simp only [conclude_trace, besides_append, besides_seen, h.others]
  paired := by
    simp only [conclude_trace, conclude_activity, about_append, about_effects, about_seen,
      List.nil_append]
    exact .settled (by simp [Activity.call?]) hsettled

/-- The call begins in both lives. -/
theorem attempt (h : Twins call a b) (haccount : about call a.trace = [.called call .callback])
    (haccount' : about call b.trace = [.called call .returned]) (task : HandshakeTask)
    (c : Connection) (effects : List Effect) :
    Twins call (a.attempt call .callback task c effects)
      (b.attempt call .returned task c effects) where
  same := by
    obtain ⟨connection, now, activity, ended, calls, path, trace⟩ := b
    cases h.same
    rfl
  made := h.made
  others := by
    simp [Life.attempt, h.others]
  paired := by
    have hbegun (os : List Occurrence) :
        about call (os ++ .began call :: effects.map .effect) = about call os ++ [.began call] := by
      rw [about_append, about_cons_of_call call rfl, about_effects]
    simp only [Life.attempt, become_trace, hbegun, haccount, haccount']
    exact .attempting task

/-- What changes neither the owners nor what was seen keeps lives twins. -/
theorem still (h : Twins call a b) {a' b' : Life}
    (hsame : b' = { a' with activity := b.activity, trace := b.trace })
    (hcalls : a'.calls = a.calls) (hactivity : a'.activity = a.activity)
    (htrace : a'.trace = a.trace) : Twins call a' b' where
  same := by
    rw [hsame]
  made := hcalls ▸ h.made
  others := by
    rw [hsame, htrace]
    exact h.others
  paired := by
    rw [hsame, hactivity, htrace]
    exact h.paired

theorem task?_eq (h : Twins call a b) : b.task? = a.task? := by
  have hconnection : b.connection = a.connection := by rw [h.same]
  have hpaired := h.paired
  unfold Life.task?
  rw [hconnection]
  generalize a.activity = activity at *
  generalize b.activity = activity' at *
  generalize about call a.trace = account at hpaired
  generalize about call b.trace = account' at hpaired
  cases hpaired <;> rfl

theorem pass (h : Twins call a b) (nanos : Nat) :
    Twins call (a.step (.pass nanos)) (b.step (.pass nanos)) := by
  simp only [step_pass]
  exact h.still (by rw [h.same]) rfl rfl rfl

theorem finish (h : Twins call a b) (result : TaskResult) :
    Twins call (a.step (.finish result)) (b.step (.finish result)) := by
  simp only [step_of_finish]
  apply h.still
  · have hended : b.ended = a.ended := by rw [h.same]
    unfold Life.finish
    rw [h.task?_eq, hended]
    split
    · split
      · rw [h.same]
      · exact h.same
    · exact h.same
  · rcases a.finish_cases result with heq | ⟨_, -, -, -, heq⟩ <;> rw [heq]
  · exact finish_activity ..
  · exact finish_trace ..

/-- Once the call is over, the lives have the same to do. -/
theorem step_of_over (h : Twins call a b) (hactivity : b.activity = a.activity)
    (hother : a.activity.call? ≠ some call)
    (hsettled : Settlement call (about call a.trace) (about call b.trace)) (m : Move) :
    Twins call (a.step m) (b.step m) := by
  -- Both are the same life with nothing seen, each after a past of its own.
  let fresh : Life := { a with trace := [] }
  have hfirst : a = fresh.after a.trace := by simp [fresh, after]
  have hsecond : b = fresh.after b.trace := by
    rw [h.same]
    simp [fresh, after, hactivity]
  have hover : Over call fresh := ⟨h.made, hother⟩
  obtain ⟨⟨hmade, hstill⟩, hnothing⟩ := hover.step (step_is_step fresh m)
  have hnone : about call (fresh.step m).trace = [] := hnothing
  have hstep : a.step m = (fresh.step m).after a.trace := by
    rw [← step_after, ← hfirst]
  have hstep' : b.step m = (fresh.step m).after b.trace := by
    rw [← step_after, ← hsecond]
  rw [hstep, hstep']
  refine ⟨rfl, hmade, ?_, ?_⟩
  · simp [h.others]
  · simp only [after_activity, after_trace, about_append, hnone, List.append_nil]
    exact .settled hstill hsettled

/-- **Every move keeps lives twins.** -/
theorem step (h : Twins call a b) (m : Move) : Twins call (a.step m) (b.step m) := by
  have hconnection : b.connection = a.connection := by rw [h.same]
  have hnow : b.now = a.now := by rw [h.same]
  have hended : b.ended = a.ended := by rw [h.same]
  have hpaired := h.paired
  generalize hactivity : a.activity = activity at hpaired
  generalize hactivity' : b.activity = activity' at hpaired
  generalize haccount : about call a.trace = account at hpaired
  generalize haccount' : about call b.trace = account' at hpaired
  cases hpaired with
  -- While the call is pending the owners can do no more than look at it or give it up.
  | called =>
    cases m with
    | pass nanos => exact h.pass nanos
    | finish result => exact h.finish result
    | look first =>
      -- The check reads the connection and the clock, and not how the call was made.
      simp only [Life.step, hactivity, hactivity', Life.begin, hconnection, hnow]
      cases hresult : (a.connection.start a.now).result with
      | ok task => exact h.attempt haccount haccount' ..
      | error e =>
        apply h.conclude
        rw [haccount, haccount']
        exact .refused e
    | giveUp =>
      simp only [Life.step, hactivity, hactivity', hconnection]
      apply h.conclude
      rw [haccount, haccount']
      exact .forgotten
    | _ => simpa [Life.step, hactivity, hactivity'] using h
  | attempting task =>
    cases m with
    | pass nanos => exact h.pass nanos
    | finish result => exact h.finish result
    | look timerFirst =>
      simp only [Life.step, hactivity, hactivity', Life.look, hconnection, hnow, hended]
      cases hpoll : a.connection.poll task a.now a.ended timerFirst with
      | none => exact h
      | some o =>
        apply h.conclude
        rw [haccount, haccount']
        exact .resolved o.result
    | giveUp =>
      simp only [Life.step, hactivity, hactivity', Life.giveUp, hconnection]
      apply h.conclude
      rw [haccount, haccount']
      exact .givenUp
    | _ => simpa [Life.step, hactivity, hactivity'] using h
  | settled hother hsettled =>
    apply h.step_of_over (hactivity'.trans hactivity.symm) (hactivity ▸ hother)
    rwa [haccount, haccount']

theorem run (h : Twins call a b) (schedule : List Move) :
    Twins call (a.run schedule) (b.run schedule) := by
  -- Both lives change with every move, so both are general.
  induction schedule generalizing a b with
  | nil => exact h
  | cons m schedule ih => exact ih (h.step m)

end Twins

end Life

/-! ## Verdicts -/

/-- The outcome of a handshake, and not an error that comes without one. -/
def isVerdict : Except ConnectionError Unit → Bool
  | .ok () => true
  | .error e => e.isOutcome

/-- The phase is the one that a handshake with this outcome leaves behind. -/
structure Phase.Reflects (p : Phase) (outcome : Except ConnectionError Unit) : Prop where
  established : outcome = .ok () ↔ p = .established
  timedOut : (∃ e, outcome = .error e ∧ e.isTimeout = true) ↔ p = .timedOut
  failed : (∃ e, outcome = .error e ∧ e.isTimeout = false) ↔ p = .failed

/-- An event that tells of an outcome goes with the passage into the phase that reflects it. -/
theorem Log.Tells.reflects {event : Log.Event} {outcome : Except ConnectionError Unit} {q : Phase}
    (htells : Log.Tells event outcome) (hpassage : Log.Passage .handshaking q [event]) :
    q.Reflects outcome := by
  cases htells with
  | complete | rejected | passed | timedOut =>
    cases hpassage
    constructor <;> simp [ConnectionError.isTimeout]

/-- From a phase that reflects an outcome only a shutdown leads on. -/
theorem Phase.Reflects.of_edge {m : Move} {p q : Phase} {outcome : Except ConnectionError Unit}
    (h : p.Reflects outcome) (edge : Phase.Edge m p q) :
    q = .shutdown ∧ (m = .shutdown ∨ ∃ answer, m = .farewell answer) := by
  have hended : p = .established ∨ p = .timedOut ∨ p = .failed := by
    cases outcome with
    | ok => exact Or.inl (h.established.mp rfl)
    | error e =>
      cases htimeout : e.isTimeout with
      | true => exact Or.inr (Or.inl (h.timedOut.mp ⟨e, rfl, htimeout⟩))
      | false => exact Or.inr (Or.inr (h.failed.mp ⟨e, rfl, htimeout⟩))
  cases edge with
  | shut => exact ⟨rfl, Or.inl rfl⟩
  | farewell answer => exact ⟨rfl, Or.inr ⟨answer, rfl⟩⟩
  | bind | begin | establish | fail | expire => simp at hended

namespace Life

variable {l l' a b : Life} {m : Move} {call : Nat}

/-- A shutdown waits for its farewell only if it was asked for. -/
theorem closing_step (s : Step l m l') {stream : StreamId} (h : l'.activity = .closing stream) :
    m = .shutdown ∨ l.activity = .closing stream := by
  cases s with
  | idle | pass | finish => exact Or.inr h
  | release => exact Or.inl rfl
  | set _ hactivity | initTransport _ _ _ hactivity => simp [hactivity] at h
  | call | attempt | refuse | resolve | forget | giveUp | shut | farewell | leave | drop => cases h

/-- Since the call was made, its callback was told what the phase reflects, unless there was a
shutdown. -/
structure Reflecting (call : Nat) (schedule : List Move) (l : Life) : Prop where
  closing : ∀ stream, l.activity = .closing stream → .shutdown ∈ schedule
  reflected : ∀ outcome, .calledBack call outcome ∈ l.trace →
    l.connection.phase.Reflects outcome ∨ l.connection.phase = .shutdown ∧ .shutdown ∈ schedule

theorem reflecting_step (h : l.Sound) (s : Step l m l') {schedule : List Move} (hm : m ∈ schedule)
    (hreflecting : Reflecting call schedule l) : Reflecting call schedule l' where
  closing := by
    intro stream hclosing
    rcases closing_step s hclosing with rfl | hbefore
    · exact hm
    · exact hreflecting.closing stream hbefore
  reflected := by
    intro outcome hback
    rcases calledBack_cases s hback with hold | ⟨a, timerFirst, o, hactivity, hpoll, rfl, rfl⟩
    · rcases edge_step h s with hsame | hedge
      · rw [hsame]
        exact hreflecting.reflected outcome hold
      · right
        rcases hreflecting.reflected outcome hold with hreflects | ⟨hshut, -⟩
        · obtain ⟨hphase, hmove⟩ := hreflects.of_edge hedge
          refine ⟨hphase, ?_⟩
          rcases hmove with rfl | ⟨answer, rfl⟩
          · exact hm
          · -- The farewell belongs to a shutdown that the schedule has asked for.
            cases s with
            | idle => exact absurd rfl (Nat.ne_of_lt hedge.rank_lt)
            | farewell _ hactivity => exact hreflecting.closing _ hactivity
        · -- No edge leads out of a shutdown.
          have hup := hedge.rank_lt
          rw [hshut] at hup
          exact absurd hup (Nat.not_lt_of_le (Phase.rank_le_shutdown _))
    · left
      obtain ⟨event, -, htells, hpassage⟩ :=
        Connection.poll_told h.shaped (h.attempting _ hactivity) hpoll
      exact htells.reflects hpassage

theorem reflecting_run (hsound : l.Sound) (hbooked : l.Booked) (hresting : l.activity = .resting)
    (schedule : List Move) : Reflecting l.calls schedule ((l.call .callback).run schedule) := by
  have hkept : ((l.call .callback).run schedule).Sound ∧
      Reflecting l.calls schedule ((l.call .callback).run schedule) := by
    refine run_induction (P := fun l' => l'.Sound ∧ Reflecting l.calls schedule l') schedule
      ⟨sound_step hsound (.call .callback hresting), ?_, ?_⟩ ?_
    · intro stream hclosing
      cases hclosing
    · -- A new call was not called back yet.
      intro outcome hback
      rw [← mem_about l.calls rfl,
        (hbooked.call hresting .callback).called l.calls .callback rfl] at hback
      simp at hback
    · rintro here next m hm s ⟨hsound, hreflecting⟩
      exact ⟨sound_step hsound s, reflecting_step hsound s hm hreflecting⟩
  exact hkept.2

/-! ## Two accounts of one call -/

/-- What the two accounts of a call have in common. -/
structure Answers (call : Nat) (os os' : List Occurrence) : Prop where
  /-- The call gets past the check in both lives or in neither. -/
  began : .began call ∈ os ↔ .began call ∈ os'
  /-- One call returns at the check exactly if the other returns the same error and its callback is
  not run. -/
  refused : ∀ answer, .returned call answer ∈ os' ∧ .began call ∉ os' ↔
    (∃ e, answer = .error e) ∧ .returned call answer ∈ os ∧ callbacks call os = 0
  /-- Otherwise the call returns well, and its callback is told what the other returns. -/
  resolved : ∀ outcome, .returned call outcome ∈ os' ∧ .began call ∈ os' ↔
    .returned call (.ok ()) ∈ os ∧ .calledBack call outcome ∈ os
  once : .returned call (.ok ()) ∈ os → callbacks call os = 1
  dropped : .dropped call ∈ os ↔ .dropped call ∈ os'

theorem Answers.of_about {os os' : List Occurrence}
    (h : Answers call (about call os) (about call os')) : Answers call os os' := by
  have hreturned (os : List Occurrence) (answer : Except ConnectionError Unit) :
      .returned call answer ∈ about call os ↔ .returned call answer ∈ os := mem_about call rfl
  have hback (os : List Occurrence) (outcome : Except ConnectionError Unit) :
      .calledBack call outcome ∈ about call os ↔ .calledBack call outcome ∈ os :=
    mem_about call rfl
  have hbegan (os : List Occurrence) : .began call ∈ about call os ↔ .began call ∈ os :=
    mem_about call rfl
  have hdropped (os : List Occurrence) : .dropped call ∈ about call os ↔ .dropped call ∈ os :=
    mem_about call rfl
  obtain ⟨hstarted, hrefused, hresolved, honce, hgone⟩ := h
  simp only [callbacks_about, hreturned, hback, hbegan, hdropped]
    at hstarted hrefused hresolved honce hgone
  exact ⟨hstarted, hrefused, hresolved, honce, hgone⟩

theorem Paired.answers {activity activity' : Activity} {account account' : List Occurrence}
    (h : Paired call activity activity' account account') : Answers call account account' := by
  cases h with
  | called | attempting => constructor <;> simp
  | settled hother hsettled =>
    cases hsettled with
    | refused | forgotten | givenUp | resolved =>
      constructor <;>
        simp [callbacks, about, List.countP_cons, Occurrence.call?, Occurrence.isCallback]

/-! ## Either way -/

/-- A call that was made with a callback in one life and to return its outcome in the other has done
the same in both. -/
structure Agree (call : Nat) (schedule : List Move) (a b : Life) : Prop where
  connection : a.connection = b.connection
  /-- The handlers were called with the same, in the same order, and the log was written alike. -/
  effects : a.trace.filterMap Occurrence.effect? = b.trace.filterMap Occurrence.effect?
  answers : Answers call a.trace b.trace
  /-- What the call returns tells whether it was refused at the check. -/
  verdict : ∀ outcome, .returned call outcome ∈ b.trace →
    (isVerdict outcome = true ↔ .began call ∈ b.trace)
  /-- The outcome is what the phase says, as long as there was no shutdown. -/
  reflected : ∀ outcome, .calledBack call outcome ∈ a.trace →
    a.connection.phase.Reflects outcome ∨ a.connection.phase = .shutdown ∧ .shutdown ∈ schedule

/-- No effect is about a call. -/
theorem effects_besides (call : Nat) (os : List Occurrence) :
    (besides call os).filterMap Occurrence.effect? = os.filterMap Occurrence.effect? := by
  induction os with
  | nil => rfl
  | cons o os ih =>
    by_cases hcall : o.call? = some call
    · have hnone : o.effect? = none := by
        cases o with
        | effect => cases hcall
        | _ => rfl
      have hskip : besides call (o :: os) = besides call os :=
        List.filter_cons_of_neg (by simpa using hcall)
      rw [hskip, ih, List.filterMap_cons_none hnone]
    · have hkeep : besides call (o :: os) = o :: besides call os :=
        List.filter_cons_of_pos (by simpa using hcall)
      rw [hkeep, List.filterMap_cons, List.filterMap_cons, ih]

theorem Twins.answers (h : Twins call a b) : Answers call a.trace b.trace :=
  h.paired.answers.of_about

theorem Twins.verdict (h : Twins call a b) (hsourced : a.Sourced)
    {outcome : Except ConnectionError Unit} (hreturned : .returned call outcome ∈ b.trace) :
    isVerdict outcome = true ↔ .began call ∈ b.trace := by
  by_cases hbegan : .began call ∈ b.trace
  · refine iff_of_true ?_ hbegan
    obtain ⟨-, hback⟩ := (h.answers.resolved outcome).mp ⟨hreturned, hbegan⟩
    cases outcome with
    | ok => rfl
    | error e => exact (hsourced.calledBack call e hback).2
  · refine iff_of_false ?_ hbegan
    obtain ⟨⟨e, rfl⟩, hrefused, -⟩ := (h.answers.refused outcome).mp ⟨hreturned, hbegan⟩
    -- The check tells the phase, which is no outcome of a handshake.
    rcases hsourced.returned call e hrefused with ⟨-, phase, -, rfl⟩ | ⟨hbefore, -⟩
    · simp [isVerdict, ConnectionError.isOutcome]
    · exact absurd (h.answers.began.mp hbefore) hbegan

/-- **A callback and an answer are one operation.** Whenever the owner of a connection is in the
middle of nothing, a call with a callback and a call that returns its outcome come to the same
connection with the same effects, whatever happens afterwards. The one is refused at the check
exactly if the other is; if not, the callback is told once what the other call returns. That alone
tells whether the call was refused, and which phase the handshake has left behind. -/
theorem callback_and_answer_agree (handle : Handle) (now : Instant) (moves : List Move)
    (hresting : ((new handle now).run moves).activity = .resting) (schedule : List Move) :
    let l := (new handle now).run moves
    Agree l.calls schedule ((l.step (.call .callback)).run schedule)
      ((l.step (.call .returned)).run schedule) := by
  intro l
  have hsound : l.Sound := sound_run handle now moves
  have hbooked : l.Booked := booked_run handle now moves
  have hcall (delivery : Delivery) : l.step (.call delivery) = l.call delivery := by
    simp [Life.step, l, hresting]
  rw [hcall, hcall]
  have htwins : Twins l.calls ((l.call .callback).run schedule) ((l.call .returned).run schedule) :=
    (hbooked.twins hresting).run schedule
  have hwhole : (l.call .callback).run schedule =
      (new handle now).run (moves ++ .call .callback :: schedule) := by
    rw [run_append, run_cons, hcall]
  have hsourced : ((l.call .callback).run schedule).Sourced := by
    rw [hwhole]
    exact (candid_run ..).sourced (booked_run ..) (unbegun_run ..)
  refine ⟨?_, ?_, htwins.answers, fun _ => htwins.verdict hsourced, ?_⟩
  · rw [htwins.same]
  · rw [← effects_besides l.calls, ← htwins.others, effects_besides]
  · exact (reflecting_run hsound hbooked hresting schedule).reflected

/-- The deadline passes before the task ends. -/
theorem callback_and_answer_agree_of_timeout :
    let l := (new ⟨1⟩ 0).run bindingMoves
    let schedule := [.look false, .pass 5000000000, .look true]
    let a := (l.step (.call .callback)).run schedule
    let b := (l.step (.call .returned)).run schedule
    l.activity = .resting ∧ callbacks 0 a.trace = 1 ∧ a.connection.phase = .timedOut ∧
      Agree 0 schedule a b := by
  exact ⟨rfl, rfl, rfl, callback_and_answer_agree ⟨1⟩ 0 bindingMoves rfl _⟩

end Life

end BoundedTls
