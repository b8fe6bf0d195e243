import BoundedTls.Proofs.Connection.Completion
import BoundedTls.Proofs.Connection.Order

/-!
# What the log tells of a connection

The events of a connection are written by five operations, each under conditions of its own, and
the operations may come in any order, be refused, be dropped or be repeated. Read from the start,
the log of a connection still tells one story: it looks for a provider, is bound, begins a
handshake, comes to one ending, and is left.

## Architecture

- **Stories**: the words that the log can hold, as a grammar read from the left (`Log.Story`).
- **Tales**: the same words by the phase that they lead to (`Log.Tale`). Every step of a life adds
  to the tale what the phase that it enters has to tell.
- **Endings**: an event that tells how a handshake has ended is written by the look that delivers
  the outcome, and by nothing else (`Log.Tells`, `Life.Delivered`).

The notice of a stamping is written by an endpoint and is no part of the story.
-/

namespace BoundedTls

open BoundedTls.Time

/-! ## Stories -/

namespace Log

/-- What the log of a connection can still come to hold once the connection is at a phase. Every
story may break off, for the connection may be dropped. -/
inductive Story : Phase → List Event → Prop where
  | ends (p : Phase) : Story p []
  | noProvider (h : Handle) {rest : List Event} :
      Story .idle rest → Story .idle (.noProvider h :: rest)
  | bound (h : Handle) (role : Role) {rest : List Event} :
      Story .ready rest → Story .idle (.transportReady h role :: rest)
  | begun (h : Handle) (role : Role) (ms : UInt64) {rest : List Event} :
      Story .handshaking rest → Story .ready (.handshakeStarted h role ms :: rest)
  | complete (h : Handle) {rest : List Event} :
      Story .established rest → Story .handshaking (.handshakeComplete h :: rest)
  | failed (h : Handle) (e : ConnectionError) : Story .handshaking [.handshakeFailed h e]
  | timedOut (h : Handle) (ms : UInt64) {rest : List Event} :
      Story .timedOut rest → Story .handshaking (.handshakeTimedOut h ms :: rest)
  | late (h : Handle) : Story .timedOut [.lateResult h]
  | shutdownFailed (h : Handle) (fault : Fault) : Story .established [.shutdownFailed h fault]

/-- What a connection tells as it passes from one phase to another. -/
inductive Passage : Phase → Phase → List Event → Prop where
  | stay (p : Phase) : Passage p p []
  | noProvider (h : Handle) : Passage .idle .idle [.noProvider h]
  | bound (h : Handle) (role : Role) : Passage .idle .ready [.transportReady h role]
  | begun (h : Handle) (role : Role) (ms : UInt64) :
      Passage .ready .handshaking [.handshakeStarted h role ms]
  | complete (h : Handle) : Passage .handshaking .established [.handshakeComplete h]
  | failed (h : Handle) (e : ConnectionError) :
      Passage .handshaking .failed [.handshakeFailed h e]
  | timedOut (h : Handle) (ms : UInt64) :
      Passage .handshaking .timedOut [.handshakeTimedOut h ms]
  | shut (p : Phase) : Passage p .shutdown []
  | late (h : Handle) : Passage .timedOut .shutdown [.lateResult h]
  | shutdownFailed (h : Handle) (fault : Fault) :
      Passage .established .shutdown [.shutdownFailed h fault]

/-- The events on the way of a connection to a phase. -/
inductive Tale : Phase → List Event → Prop where
  | nothing : Tale .idle []
  | append {p q : Phase} {told added : List Event} :
      Tale p told → Passage p q added → Tale q (told ++ added)

/-- A passage goes before every story of the phase that it leads to. -/
theorem Passage.story {p q : Phase} {added rest : List Event} (passage : Passage p q added)
    (story : Story q rest) : Story p (added ++ rest) := by
  cases passage with
  | stay => exact story
  | noProvider h => exact .noProvider h story
  | bound h role => exact .bound h role story
  | begun h role ms => exact .begun h role ms story
  | complete h => exact .complete h story
  | timedOut h ms => exact .timedOut h ms story
  -- From these phases on nothing is told.
  | failed h e =>
    cases story
    exact .failed h e
  | shut =>
    cases story
    exact .ends p
  | late h =>
    cases story
    exact .late h
  | shutdownFailed h fault =>
    cases story
    exact .shutdownFailed h fault

/-- What was told and what is still to come make one story. -/
theorem Tale.continue {p : Phase} {told : List Event} (tale : Tale p told) :
    ∀ {rest : List Event}, Story p rest → Story .idle (told ++ rest) := by
  -- By induction on the way so far: its last passage moves over to what is still to come.
  induction tale with
  | nothing => exact fun story => story
  | append _ passage ih =>
    intro rest story
    rw [List.append_assoc]
    exact ih (passage.story story)

theorem Tale.story {p : Phase} {told : List Event} (tale : Tale p told) : Story .idle told := by
  simpa using tale.continue (.ends p)

/-! ## Endings -/

/-- The event tells how a handshake has ended. -/
def Event.isEnding : Event → Bool
  | handshakeComplete _ | handshakeFailed _ _ | handshakeTimedOut _ _ => true
  | _ => false

/-- The event tells of this outcome. -/
inductive Tells : Event → Except ConnectionError Unit → Prop where
  | complete (h : Handle) : Tells (.handshakeComplete h) (.ok ())
  | rejected (h : Handle) (fault : Fault) :
      Tells (.handshakeFailed h (.rejected fault)) (.error (.rejected fault))
  | passed (h : Handle) (fault : Fault) :
      Tells (.handshakeFailed h (.transport fault)) (.error (.transport fault))
  | timedOut (h : Handle) (d : Duration) :
      Tells (.handshakeTimedOut h d.millis64) (.error (.timeout d))

/-- An ending is told where a handshake passes into one of its three outcomes. -/
theorem Passage.of_ending {p q : Phase} {added : List Event} (passage : Passage p q added)
    {event : Event} (hevent : event ∈ added) (hending : event.isEnding = true) :
    p = .handshaking ∧ (q = .established ∨ q = .failed ∨ q = .timedOut) := by
  cases passage with
  | complete | failed | timedOut => simp
  | stay | shut => cases hevent
  | noProvider | bound | begun | late | shutdownFailed =>
    rw [List.mem_singleton.mp hevent] at hending
    cases hending

end Log

/-! ## The log of a life -/

/-- The event that an effect tells of its connection. -/
def Effect.told? : Effect → Option Log.Event
  | .log (.stamped _) => none
  | .log event => some event
  | _ => none

def Occurrence.told? : Occurrence → Option Log.Event
  | .effect e => e.told?
  | _ => none

/-- The events among what was seen. -/
def told (seen : List Occurrence) : List Log.Event :=
  seen.filterMap Occurrence.told?

@[simp] theorem told_nil : told [] = [] := rfl

@[simp] theorem told_append (seen later : List Occurrence) :
    told (seen ++ later) = told seen ++ told later :=
  List.filterMap_append

@[simp] theorem told_effects (effects : List Effect) :
    told (effects.map .effect) = effects.filterMap Effect.told? := by
  rw [told, List.filterMap_map]
  rfl

theorem told_cons_of_none {o : Occurrence} (h : o.told? = none) (seen : List Occurrence) :
    told (o :: seen) = told seen :=
  List.filterMap_cons_none h

/-- A report is no event. -/
@[simp] theorem told_seen (r : Report) (call : Nat) : told (r.seen call) = [] := by
  apply List.filterMap_eq_nil_iff.mpr
  intro o ho
  rcases List.mem_append.mp ho with hcallback | hending
  · obtain ⟨outcome, -, rfl⟩ := List.mem_map.mp hcallback
    rfl
  · rw [List.mem_singleton.mp hending]
    split
    · rfl
    · rfl

/-! ## What the operations tell -/

namespace Connection

variable {c : Connection} {now : Instant}

theorem put_told (s : Setting) (c : Connection) : (s.put c).2.filterMap Effect.told? = [] := by
  cases s <;> rfl

/-- A connection that takes a stream tells of it, and one that is idle tells that it has no
provider. -/
theorem initTransport_passage (c : Connection) (now : Instant) (runtime : Runtime)
    (stream : StreamId) (role : Role) :
    Log.Passage c.phase (c.initTransport now runtime stream role).connection.phase
      ((c.initTransport now runtime stream role).effects.filterMap Effect.told?) := by
  unfold initTransport
  split
  · exact .stay _
  · rename_i hidle
    have hphase : c.phase = .idle := Classical.not_not.mp hidle
    split
    · simpa [List.filterMap_cons, Effect.told?, hphase] using .noProvider c.handle
    · simp only
      split
      · exact .stay _
      · simpa [List.filterMap_cons, Effect.told?, hphase] using .bound c.handle role

/-- A connection that has taken a stream is ready, in the role that was asked for, and tells of
it. -/
theorem initTransport_ok {runtime : Runtime} {stream : StreamId} {role : Role}
    (h : (c.initTransport now runtime stream role).result = .ok ()) :
    let o := c.initTransport now runtime stream role
    o.connection.phase = .ready ∧ o.connection.role = some role ∧
      o.connection.handle = c.handle ∧ o.connection.timeout = c.timeout ∧
      o.effects.filterMap Effect.told? = [.transportReady c.handle role] := by
  unfold initTransport at h ⊢
  split at h
  · cases h
  · rename_i hidle
    split at h
    · cases h
    · rename_i provider hprovider
      simp only at h
      split at h
      · cases h
      · rename_i context hsupplied
        simp [hidle, hprovider, List.filterMap_cons, Effect.told?]

/-- A handshake that begins is told of, after its stream was prepared and its deadline set. -/
theorem start_told (h : c.Shaped) (hready : c.phase = .ready) (now : Instant) :
    ∃ role, c.role = some role ∧ (c.start now).effects.filterMap Effect.told? =
      [.handshakeStarted c.handle role c.timeout.millis64] := by
  obtain ⟨role, runtime, context, stream, deadline, hsupports, hrole, hruntime, hchannel, htimer,
    -⟩ := h.of_ready hready
  refine ⟨role, hrole, ?_⟩
  cases hpreparer : c.preparer with
  | none =>
    simp [start, hready, hrole, hruntime, hchannel, htimer, Channel.startHandshake, hsupports,
      hpreparer, List.filterMap_cons, Effect.told?]
  | some preparer =>
    simp [start, hready, hrole, hruntime, hchannel, htimer, Channel.startHandshake, hsupports,
      hpreparer, Channel.raw?, List.filterMap_cons, Effect.told?]

/-- A race that is decided has an ending, and tells of it by one event. -/
theorem poll_told (h : c.Shaped) (hphase : c.phase = .handshaking) {task : HandshakeTask}
    {ended : Option TaskResult} {timerFirst : Bool} {o : Outcome Unit}
    (hpoll : c.poll task now ended timerFirst = some o) :
    ∃ event, o.effects.filterMap Effect.told? = [event] ∧ Log.Tells event o.result ∧
      Log.Passage .handshaking o.connection.phase [event] := by
  obtain ⟨_, _, _, deadline, _, _, _, _, htimer, _⟩ := h.of_handshaking hphase
  rcases poll_eq_some htimer hpoll with ⟨result, -, rfl⟩ | ⟨-, rfl⟩
  · cases result with
    | secured stream => exact ⟨_, rfl, .complete _, .complete _⟩
    | broken cause => exact ⟨_, rfl, .passed _ _, .failed _ _⟩
    | fault fault =>
      refine ⟨_, rfl, ?_, .failed _ _⟩
      -- The fault is sorted once, for the log and for the owner alike.
      show Log.Tells (.handshakeFailed c.handle (.ofHandshake fault)) (.error (.ofHandshake fault))
      unfold ConnectionError.ofHandshake
      split
      · exact .rejected _ _
      · exact .passed _ _
  · exact ⟨_, rfl, .timedOut _ _, .timedOut _ _⟩

/-- A shutdown drops what was left of a late handshake, and may have to tell of it. -/
theorem beginShutdown_passage (h : c.Shaped) (lateEnded : Bool) :
    Log.Passage c.phase .shutdown
      ((c.beginShutdown lateEnded).2.2.filterMap Effect.told?) := by
  have hreleased : (releaseStream c.channel).2.filterMap Effect.told? = [] := by
    unfold releaseStream
    split <;> rfl
  obtain ⟨handle, role, runtime, channel, timer, timeout, phase, abandoned, preparer, provider⟩ := c
  cases h with
  | timedOut deadline task hsupports =>
    cases lateEnded with
    | true => exact .late handle
    | false => exact .shut _
  | _ => simpa [beginShutdown, hreleased] using .shut _

/-- A shutdown that has to wait for its farewell has told of nothing yet. -/
theorem beginShutdown_told_of_pending (h : c.Shaped) {stream : StreamId}
    (hpending : (releaseStream c.channel).1 = some stream) (lateEnded : Bool) :
    (c.beginShutdown lateEnded).2.2.filterMap Effect.told? = [] := by
  obtain ⟨handle, role, runtime, channel, timer, timeout, phase, abandoned, preparer, provider⟩ := c
  cases h with
  | established => rfl
  | _ => cases hpending

theorem discard_told (c : Connection) : c.discard.filterMap Effect.told? = [] := by
  apply List.filterMap_eq_nil_iff.mpr
  intro e he
  simp only [discard, List.mem_append, List.mem_map] at he
  rcases he with ⟨task, -, rfl⟩ | ⟨stream, -, rfl⟩
  · rfl
  · rfl

end Connection

namespace Life

variable {l l' : Life} {m : Move}

/-- The log of the connection. -/
def story (l : Life) : List Log.Event :=
  told l.trace

theorem story_of_trace {seen : List Occurrence} (h : l'.trace = l.trace ++ seen) :
    l'.story = l.story ++ told seen := by
  rw [story, h, told_append]
  rfl

/-- **Every step tells what belongs to its passage.** -/
theorem passage_step (h : l.Sound) (s : Step l m l') :
    ∃ added, l'.story = l.story ++ added ∧
      Log.Passage l.connection.phase l'.connection.phase added := by
  cases s with
  | idle | pass | finish => exact ⟨[], (List.append_nil _).symm, .stay _⟩
  | set s =>
    have htrace : (l.set s).trace = l.trace ++ (s.put l.connection).2.map .effect := rfl
    refine ⟨_, story_of_trace htrace, ?_⟩
    rw [told_effects, Connection.put_told]
    simpa [Life.set] using .stay _
  | initTransport runtime stream role =>
    refine ⟨_, story_of_trace rfl, ?_⟩
    rw [told_append, told_effects, told_cons_of_none rfl, told_nil, List.append_nil]
    exact Connection.initTransport_passage l.connection l.now runtime stream role
  | call | leave => exact ⟨_, story_of_trace rfl, .stay _⟩
  | attempt first hactivity hok =>
    obtain ⟨hready, hhandshaking⟩ := Connection.phase_of_start_ok h.shaped hok
    obtain ⟨role, -, htold⟩ := Connection.start_told h.shaped hready l.now
    refine ⟨_, story_of_trace rfl, ?_⟩
    rw [told_cons_of_none rfl, told_effects, htold, hready]
    simp only [Life.attempt, become_connection, hhandshaking]
    exact .begun _ _ _
  | refuse first hactivity herror =>
    obtain ⟨-, hsame⟩ := Connection.start_error h.shaped herror
    refine ⟨_, story_of_trace (conclude_trace ..), ?_⟩
    rw [told_append, told_seen, told_effects, hsame]
    exact .stay _
  | resolve timerFirst hactivity hpoll =>
    have hphase := h.attempting _ hactivity
    obtain ⟨event, htold, -, hpassage⟩ := Connection.poll_told h.shaped hphase hpoll
    refine ⟨_, story_of_trace (conclude_trace ..), ?_⟩
    rw [told_append, told_seen, told_effects, htold, hphase]
    exact hpassage
  | forget hactivity =>
    refine ⟨_, story_of_trace (conclude_trace ..), ?_⟩
    rw [told_append, told_seen]
    exact .stay _
  | giveUp hactivity =>
    refine ⟨_, story_of_trace rfl, ?_⟩
    rw [told_append, told_seen]
    exact .stay _
  | release hactivity hpending =>
    have htrace : l.beginShutdown.trace =
        l.trace ++ (l.connection.beginShutdown l.ended.isSome).2.2.map .effect := rfl
    refine ⟨_, story_of_trace htrace, ?_⟩
    rw [told_effects, Connection.beginShutdown_told_of_pending h.shaped hpending]
    exact .stay _
  | shut hactivity hpending =>
    -- The second part of the shutdown has nothing to close.
    have htrace : (l.beginShutdown.endShutdown none (.ok ())).trace =
        l.trace ++ (l.connection.beginShutdown l.ended.isSome).2.2.map .effect :=
      List.append_nil _
    refine ⟨_, story_of_trace htrace, ?_⟩
    rw [told_effects]
    exact Connection.beginShutdown_passage h.shaped l.ended.isSome
  | farewell answer hactivity =>
    refine ⟨_, story_of_trace rfl, ?_⟩
    rw [(h.closing _ hactivity).1]
    cases answer with
    | ok => exact .shut _
    | error fault => exact .shutdownFailed _ fault
  | drop hactivity =>
    refine ⟨_, story_of_trace rfl, ?_⟩
    rw [told_effects, Connection.discard_told]
    exact .stay _

/-! ## Endings and outcomes -/

/-- A call that has passed the check has delivered an outcome. -/
inductive Delivered (l : Life) (call : Nat) : Except ConnectionError Unit → Prop where
  | calledBack {outcome : Except ConnectionError Unit} :
      .calledBack call outcome ∈ l.trace → Delivered l call outcome
  | returned {outcome : Except ConnectionError Unit} :
      .called call .returned ∈ l.trace → .began call ∈ l.trace →
      .returned call outcome ∈ l.trace → Delivered l call outcome

theorem Delivered.step (s : Step l m l') {call : Nat} {outcome : Except ConnectionError Unit}
    (h : l.Delivered call outcome) : l'.Delivered call outcome := by
  cases h with
  | calledBack hback => exact .calledBack (mem_trace_step s hback)
  | returned hcalled hbegan hreturned =>
    exact .returned (mem_trace_step s hcalled) (mem_trace_step s hbegan)
      (mem_trace_step s hreturned)

/-- The look that decides a race delivers its outcome. -/
theorem Booked.delivers (h : l.Booked) {a : Attempt} (hactivity : l.activity = .attempting a)
    (c : Connection) (effects : List Effect) (outcome : Except ConnectionError Unit) :
    (l.conclude a.call c effects (.resolved a.delivery outcome)).Delivered a.call outcome := by
  have haccount := h.attempting a hactivity
  have hcalled : .called a.call a.delivery ∈ l.trace := by
    rw [← mem_about a.call rfl, haccount]
    simp
  have hbegan : .began a.call ∈ l.trace := by
    rw [← mem_about a.call rfl, haccount]
    simp
  cases hdelivery : a.delivery with
  | callback =>
    apply Delivered.calledBack
    simp [Report.resolved, Report.seen]
  | returned =>
    rw [hdelivery] at hcalled
    apply Delivered.returned
    · simp [hcalled]
    · simp [hbegan]
    · simp [Report.resolved, Report.seen]

/-- **The look that decides a race** writes its ending and delivers its outcome. -/
theorem resolve_tells (h : l.Sound) (hbooked : l.Booked) {a : Attempt} {timerFirst : Bool}
    {o : Connection.Outcome Unit} (hactivity : l.activity = .attempting a)
    (hpoll : l.connection.poll a.task l.now l.ended timerFirst = some o) :
    ∃ event, Log.Tells event o.result ∧
      (l.conclude a.call o.connection o.effects (.resolved a.delivery o.result)).story =
        l.story ++ [event] ∧
      (l.conclude a.call o.connection o.effects (.resolved a.delivery o.result)).Delivered a.call
        o.result := by
  obtain ⟨event, htold, htells, -⟩ :=
    Connection.poll_told h.shaped (h.attempting _ hactivity) hpoll
  refine ⟨event, htells, ?_, hbooked.delivers hactivity _ _ _⟩
  rw [story_of_trace (conclude_trace ..), told_append, told_seen, told_effects, htold,
    List.append_nil]

/-- An ending that a step writes is told of an outcome that it delivers. -/
theorem ending_step (h : l.Sound) (hbooked : l.Booked) (s : Step l m l') {event : Log.Event}
    (hevent : event ∈ l'.story) (hending : event.isEnding = true) :
    event ∈ l.story ∨ ∃ call outcome, l'.Delivered call outcome ∧ Log.Tells event outcome := by
  obtain ⟨added, hstory, hpassage⟩ := passage_step h s
  rw [hstory, List.mem_append] at hevent
  rcases hevent with hold | hadded
  · exact Or.inl hold
  · -- Only a look leads from a handshake that runs to its outcome.
    obtain ⟨hfrom, hto⟩ := hpassage.of_ending hadded hending
    have hchanged : l'.connection.phase ≠ l.connection.phase := by
      rw [hfrom]
      rcases hto with heq | heq | heq <;> simp [heq]
    have hedge : Phase.Edge m l.connection.phase l'.connection.phase :=
      (edge_step h s).resolve_left hchanged
    cases s with
    | resolve timerFirst hactivity hpoll =>
      obtain ⟨told, htells, hlog, hdelivered⟩ := resolve_tells h hbooked hactivity hpoll
      have hsame : added = [told] := List.append_cancel_left (hstory.symm.trans hlog)
      rw [hsame, List.mem_singleton] at hadded
      subst hadded
      exact Or.inr ⟨_, _, hdelivered, htells⟩
    | attempt first hactivity hok =>
      rw [(Connection.phase_of_start_ok h.shaped hok).1] at hfrom
      cases hfrom
    | refuse first hactivity herror =>
      rw [conclude_connection, (Connection.start_error h.shaped herror).2] at hchanged
      exact absurd rfl hchanged
    | idle | pass | finish | call | forget | giveUp | release | leave | drop =>
      exact absurd rfl hchanged
    | set s => exact absurd (s.put_phase l.connection) hchanged
    -- Binding and shutting down do not lead from where a handshake runs to an outcome.
    | initTransport | shut | farewell =>
      rw [hfrom] at hedge
      rcases hto with heq | heq | heq <;> rw [heq] at hedge <;> cases hedge

/-! ## Outcomes are told -/

/-- The call was made, and the owner of the connection does not wait for it. -/
def Over (call : Nat) (l : Life) : Prop :=
  call < l.calls ∧ l.activity.call? ≠ some call

/-- A call that is over stays so, and its account changes no more. -/
theorem Over.step {call : Nat} (h : Over call l) (s : Step l m l') :
    Over call l' ∧ about call l'.trace = about call l.trace := by
  obtain ⟨hmade, hother⟩ := h
  cases s with
  | idle | pass | finish => exact ⟨⟨hmade, hother⟩, rfl⟩
  | call delivery =>
    have hnext : l.calls ≠ call := Nat.ne_of_gt hmade
    refine ⟨⟨Nat.lt_succ_of_lt hmade, by simpa [Activity.call?] using hnext⟩, ?_⟩
    show about call (l.trace ++ [.called l.calls delivery]) = about call l.trace
    rw [about_append, about_cons_of_other call (by simpa [Occurrence.call?] using hnext)]
    exact List.append_nil _
  | @attempt other delivery task first hactivity =>
    have hpending : other ≠ call := by simpa [hactivity, Activity.call?] using hother
    refine ⟨⟨hmade, by simpa [Life.attempt, Activity.call?] using hpending⟩, ?_⟩
    show about call (l.trace ++ .began other :: (l.connection.start l.now).effects.map .effect) = _
    rw [about_append, about_cons_of_other call (by simpa [Occurrence.call?] using hpending),
      about_effects, List.append_nil]
  -- The report is about the call that the owner waited for.
  | refuse first hactivity | forget hactivity | resolve timerFirst hactivity | giveUp hactivity =>
    refine ⟨⟨hmade, by simp [Activity.call?]⟩, ?_⟩
    simp only [hactivity, Activity.call?, ne_eq, Option.some.injEq] at hother
    simp [Life.giveUp, about_seen_of_other call hother]
  | set _ hactivity | initTransport _ _ _ hactivity =>
    refine ⟨⟨hmade, by simp [hactivity, Activity.call?]⟩, ?_⟩
    simp [Life.set, Life.initTransport]
  | _ =>
    refine ⟨⟨hmade, by simp [Activity.call?]⟩, ?_⟩
    simp [Life.beginShutdown, Life.endShutdown, Life.leave, Life.discard]

/-- The account of a call that has returned changes no more. -/
theorem Booked.about_step (h : l.Booked) (s : Step l m l') {call : Nat}
    {answer : Except ConnectionError Unit} (hreturned : .returned call answer ∈ l.trace) :
    about call l'.trace = about call l.trace := by
  have haccount : .returned call answer ∈ about call l.trace := (mem_about call rfl).mpr hreturned
  have hmade : call < l.calls := h.made (List.ne_nil_of_mem haccount)
  have hover : Over call l := by
    refine ⟨hmade, ?_⟩
    intro hpending
    -- The account of the call that the owner waits for holds no answer.
    obtain ⟨delivery, hmade | hbegun⟩ := h.of_pending hpending
    · simp [hmade] at haccount
    · simp [hbegun] at haccount
  exact (hover.step s).2

theorem calledBack_mem_seen {call other : Nat} {delivery : Delivery}
    {o outcome : Except ConnectionError Unit} :
    .calledBack call outcome ∈ (Report.resolved delivery o).seen other ↔
      delivery = .callback ∧ call = other ∧ outcome = o := by
  cases delivery <;> simp [Report.resolved, Report.seen]

/-- A callback is run by the look that decides a race. -/
theorem calledBack_cases (s : Step l m l') {call : Nat} {outcome : Except ConnectionError Unit}
    (hback : .calledBack call outcome ∈ l'.trace) :
    .calledBack call outcome ∈ l.trace ∨ ∃ a timerFirst o, l.activity = .attempting a ∧
      l.connection.poll a.task l.now l.ended timerFirst = some o ∧ o.result = outcome ∧
      l' = l.conclude a.call o.connection o.effects (.resolved a.delivery o.result) := by
  cases s with
  | idle | pass | finish => exact Or.inl hback
  | @resolve a o timerFirst hactivity hpoll =>
    rw [conclude_trace, List.mem_append, List.mem_append, calledBack_mem_seen] at hback
    rcases hback with hold | heffect | ⟨-, -, hsame⟩
    · exact Or.inl hold
    · simp at heffect
    · exact Or.inr ⟨a, timerFirst, o, hactivity, hpoll, hsame.symm, rfl⟩
  | _ =>
    refine Or.inl ?_
    simpa [Life.set, Life.initTransport, Life.call, Life.attempt, Life.giveUp, Life.beginShutdown,
      Life.endShutdown, Life.leave, Life.discard, Report.seen, Report.refused,
      Report.cancelled] using hback

theorem calledBack_step (h : l.Sound) (hbooked : l.Booked) (s : Step l m l') {call : Nat}
    {outcome : Except ConnectionError Unit} (hback : .calledBack call outcome ∈ l'.trace) :
    .calledBack call outcome ∈ l.trace ∨ ∃ event ∈ l'.story, Log.Tells event outcome := by
  refine (calledBack_cases s hback).imp_right ?_
  rintro ⟨a, timerFirst, o, hactivity, hpoll, rfl, rfl⟩
  obtain ⟨event, htells, hlog, -⟩ := resolve_tells h hbooked hactivity hpoll
  exact ⟨event, by simp [hlog], htells⟩

/-- A call that has passed the check returns by the look that decides its race. -/
theorem returned_step (h : l.Sound) (hbooked : l.Booked) (s : Step l m l') {call : Nat}
    {outcome : Except ConnectionError Unit} (hcalled : .called call .returned ∈ l'.trace)
    (hbegan : .began call ∈ l'.trace) (hreturned : .returned call outcome ∈ l'.trace) :
    .returned call outcome ∈ l.trace ∨ ∃ event ∈ l'.story, Log.Tells event outcome := by
  cases s with
  | idle | pass | finish => exact Or.inl hreturned
  | @resolve a o timerFirst hactivity hpoll =>
    obtain ⟨event, htells, hlog, -⟩ := resolve_tells h hbooked hactivity hpoll
    have haccount := hbooked.attempting a hactivity
    rw [conclude_trace, List.mem_append, List.mem_append] at hreturned hcalled
    rcases hreturned with hold | heffect | hseen
    · exact Or.inl hold
    · simp at heffect
    · have hdelivery : a.delivery = .callback ∨ a.delivery = .returned := by
        cases a.delivery <;> simp
      rcases hdelivery with hcallback | hreturns
      · -- Such a call was not made to return its outcome.
        obtain ⟨rfl, -⟩ : call = a.call ∧ outcome = .ok () := by
          simpa [hcallback, Report.resolved, Report.seen] using hseen
        have hmade : .called a.call .returned ∈ about a.call l.trace := by
          rw [mem_about a.call rfl]
          simpa [hcallback, Report.resolved, Report.seen] using hcalled
        rw [haccount, hcallback] at hmade
        simp at hmade
      · obtain ⟨-, hsame⟩ : call = a.call ∧ outcome = o.result := by
          simpa [hreturns, Report.resolved, Report.seen] using hseen
        exact Or.inr ⟨event, by simp [hlog], hsame ▸ htells⟩
  | @refuse other delivery e first hactivity herror =>
    rw [conclude_trace, List.mem_append, List.mem_append] at hreturned hbegan
    rcases hreturned with hold | heffect | hseen
    · exact Or.inl hold
    · simp at heffect
    · -- A call that is refused has not begun.
      obtain ⟨rfl, -⟩ : call = other ∧ outcome = .error e := by
        simpa [Report.refused, Report.seen] using hseen
      have hpassed : .began call ∈ about call l.trace := by
        rw [mem_about call rfl]
        simpa [Report.refused, Report.seen] using hbegan
      rw [hbooked.called call delivery hactivity] at hpassed
      simp at hpassed
  | _ =>
    refine Or.inl ?_
    simpa [Life.set, Life.initTransport, Life.call, Life.attempt, Life.giveUp, Life.beginShutdown,
      Life.endShutdown, Life.leave, Life.discard, Report.seen, Report.cancelled] using hreturned

/-- **An outcome that a step delivers is told of.** -/
theorem delivered_step (h : l.Sound) (hbooked : l.Booked) (s : Step l m l') {call : Nat}
    {outcome : Except ConnectionError Unit} (hdelivered : l'.Delivered call outcome) :
    l.Delivered call outcome ∨ ∃ event ∈ l'.story, Log.Tells event outcome := by
  cases hdelivered with
  | calledBack hback => exact (calledBack_step h hbooked s hback).imp_left .calledBack
  | returned hcalled hbegan hreturned =>
    refine (returned_step h hbooked s hcalled hbegan hreturned).imp_left fun hold => ?_
    -- The account of the call was the same before the step.
    have haccount := hbooked.about_step s hold
    rw [← mem_about call rfl, haccount, mem_about call rfl] at hcalled hbegan
    exact .returned hcalled hbegan hold

/-! ## Every log -/

/-- The log and the owner of a connection have learnt the same. -/
structure Candid (l : Life) : Prop where
  tale : Log.Tale l.connection.phase l.story
  delivered : ∀ event ∈ l.story, event.isEnding = true →
    ∃ call outcome, l.Delivered call outcome ∧ Log.Tells event outcome
  logged : ∀ call outcome, l.Delivered call outcome → ∃ event ∈ l.story, Log.Tells event outcome

theorem new_candid (handle : Handle) (now : Instant) : (new handle now).Candid where
  tale := .nothing
  delivered := by
    intro event hevent
    cases hevent
  logged := by
    intro call outcome hdelivered
    cases hdelivered with
    | calledBack hback => cases hback
    | returned hcalled => cases hcalled

theorem candid_step (h : l.Sound) (hbooked : l.Booked) (s : Step l m l') (hcandid : l.Candid) :
    l'.Candid := by
  obtain ⟨added, hstory, hpassage⟩ := passage_step h s
  refine ⟨hstory ▸ hcandid.tale.append hpassage, ?_, ?_⟩
  · intro event hevent hending
    rcases ending_step h hbooked s hevent hending with hold | hnew
    · obtain ⟨call, outcome, hdelivered, htells⟩ := hcandid.delivered event hold hending
      exact ⟨call, outcome, hdelivered.step s, htells⟩
    · exact hnew
  · intro call outcome hdelivered
    rcases delivered_step h hbooked s hdelivered with hold | hnew
    · obtain ⟨event, hevent, htells⟩ := hcandid.logged call outcome hold
      exact ⟨event, hstory ▸ List.mem_append_left _ hevent, htells⟩
    · exact hnew

theorem candid_run (handle : Handle) (now : Instant) (moves : List Move) :
    ((new handle now).run moves).Candid := by
  have hkept : ((new handle now).run moves).Sound ∧ ((new handle now).run moves).Booked ∧
      ((new handle now).run moves).Candid := by
    refine run_induction (P := fun l => l.Sound ∧ l.Booked ∧ l.Candid) moves
      ⟨new_sound handle now, new_booked handle now, new_candid handle now⟩ ?_
    rintro l l' m - s ⟨hsound, hbooked, hcandid⟩
    exact ⟨sound_step hsound s, booked_step s hbooked, candid_step hsound hbooked s hcandid⟩
  exact hkept.2.2

/-- A call is over once more was seen of it than that it was made and has begun. -/
theorem Booked.closed_of_mem (h : l.Booked) {call : Nat} {o : Occurrence}
    (hcall : o.call? = some call) (hmem : o ∈ l.trace)
    (hmade : ∀ delivery, o ≠ .called call delivery) (hbegan : o ≠ .began call) :
    Closed call (about call l.trace) := by
  apply h.closed call
  intro hpending
  rw [← mem_about call hcall] at hmem
  obtain ⟨delivery, hopen | hopen⟩ := h.of_pending hpending
  · simp [hopen, hmade] at hmem
  · simp [hopen, hmade, hbegan] at hmem

/-- A call that delivers has begun and was not dropped. -/
theorem Booked.of_delivered (h : l.Booked) {call : Nat} {outcome : Except ConnectionError Unit}
    (hdelivered : l.Delivered call outcome) : .began call ∈ l.trace ∧ .dropped call ∉ l.trace := by
  have hmem (o : Occurrence) (hcall : o.call? = some call) :
      o ∈ l.trace ↔ o ∈ about call l.trace := (mem_about call hcall).symm
  cases hdelivered with
  | calledBack hback =>
    have hclosed := h.closed_of_mem rfl hback (by simp) (by simp)
    rw [hmem _ rfl] at hback
    rw [hmem _ rfl, hmem _ rfl]
    generalize about call l.trace = account at *
    cases hclosed <;> simp at hback ⊢
  | returned hcalled hbegan hreturned =>
    have hclosed := h.closed_of_mem rfl hreturned (by simp) (by simp)
    refine ⟨hbegan, ?_⟩
    rw [hmem _ rfl] at hreturned ⊢
    generalize about call l.trace = account at *
    cases hclosed <;> simp at hreturned ⊢

/-- One call at most has begun. -/
theorem Single.unique (h : l.Single) {call other : Nat} (hcall : .began call ∈ l.trace)
    (hother : .began other ∈ l.trace) : call = other := by
  have hone : (l.trace.filter Occurrence.isBegan).length ≤ 1 := by
    rw [← List.countP_eq_length_filter]
    exact h.began
  have hcall' : .began call ∈ l.trace.filter Occurrence.isBegan := List.mem_filter.mpr ⟨hcall, rfl⟩
  have hother' : .began other ∈ l.trace.filter Occurrence.isBegan :=
    List.mem_filter.mpr ⟨hother, rfl⟩
  generalize l.trace.filter Occurrence.isBegan = begun at *
  cases begun with
  | nil => cases hcall'
  | cons o rest =>
    obtain rfl : rest = [] := List.eq_nil_of_length_eq_zero (by simpa using hone)
    rw [List.mem_singleton] at hcall' hother'
    cases hcall'.trans hother'.symm
    rfl

/-- After a shutdown nothing is told. -/
theorem story_of_shutdown (h : l.Sound) (hphase : l.connection.phase = .shutdown)
    (later : List Move) : (l.run later).story = l.story := by
  have hkept : (l.run later).Sound ∧ (l.run later).connection.phase = .shutdown ∧
      (l.run later).story = l.story := by
    refine run_induction (P := fun l' => l'.Sound ∧ l'.connection.phase = .shutdown ∧
      l'.story = l.story) later ⟨h, hphase, rfl⟩ ?_
    rintro here next m - s ⟨hsound, hshut, hstory⟩
    obtain ⟨added, hadded, hpassage⟩ := passage_step hsound s
    rw [hshut] at hpassage
    refine ⟨sound_step hsound s, ?_, ?_⟩
    · -- No passage leads out of a shutdown.
      generalize next.connection.phase = q at *
      cases hpassage <;> rfl
    · rw [hadded, hstory]
      generalize next.connection.phase = q at *
      cases hpassage <;> exact List.append_nil _
  exact hkept.2.2

/-- **The log of a connection tells a story.** However the operations on a connection are ordered,
dropped and repeated, its events form a word of the grammar. An ending is in the log exactly if its
outcome was delivered, to the callback or by the call; a dropped call has delivered none, and if it
had begun there is no ending. After a shutdown nothing more is told. -/
theorem log_tells_a_story (handle : Handle) (now : Instant) (moves : List Move) :
    let l := (new handle now).run moves
    Log.Story .idle l.story ∧
      (∀ call outcome, l.Delivered call outcome → ∃ event ∈ l.story, Log.Tells event outcome) ∧
      (∀ event ∈ l.story, event.isEnding = true →
        ∃ call outcome, l.Delivered call outcome ∧ Log.Tells event outcome) ∧
      (∀ call, .dropped call ∈ l.trace → (∀ outcome, ¬ l.Delivered call outcome) ∧
        (.began call ∈ l.trace → ∀ event ∈ l.story, event.isEnding = false)) ∧
      (l.connection.phase = .shutdown → ∀ later, (l.run later).story = l.story) := by
  intro l
  have hcandid : l.Candid := candid_run handle now moves
  have hbooked : l.Booked := booked_run handle now moves
  refine ⟨hcandid.tale.story, hcandid.logged, hcandid.delivered, ?_,
    story_of_shutdown (sound_run handle now moves)⟩
  intro call hdropped
  have hnothing (outcome : Except ConnectionError Unit) : ¬ l.Delivered call outcome :=
    fun hdelivered => (hbooked.of_delivered hdelivered).2 hdropped
  refine ⟨hnothing, ?_⟩
  intro hbegan event hevent
  apply Bool.eq_false_iff.mpr
  intro hending
  -- The ending would be that of the one call that has begun.
  obtain ⟨other, outcome, hdelivered, -⟩ := hcandid.delivered event hevent hending
  have hsame : call = other :=
    (single_run handle now moves).unique hbegan (hbooked.of_delivered hdelivered).1
  exact hnothing outcome (hsame ▸ hdelivered)

end Life

end BoundedTls
