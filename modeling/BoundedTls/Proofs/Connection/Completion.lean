import BoundedTls.Proofs.Connection.Lifecycle

/-!
# Exactly one completion

A connection can be asked for a handshake again and again: after a refusal, a failure, a timeout,
a call that was dropped, a shutdown. One call at most gets past the check of the phase, and a
callback runs once for a call that returns well and never for any other.

## Architecture

- **Accounts**: what was seen of one call (`Life.about`). An account is open while the call is
  pending, and closed in one of six ways (`Life.Closed`).
- **Books**: `Life.Booked` says which accounts are open. Every step opens one, moves it on, closes
  it or leaves all of them alone.
- **Counts**: a call begins only on a connection that was never past `ready`, which no operation
  leads back to. On a ready connection the start cannot fail (`Connection.start_of_ready`), so the
  calls that begin are the calls that pass the check.
-/

namespace BoundedTls

open BoundedTls.Time

/-- The call that an occurrence belongs to. -/
def Occurrence.call? : Occurrence → Option Nat
  | effect _ | bound _ => none
  | called call _ | began call | calledBack call _ | returned call _ | dropped call => some call

def Occurrence.isBegan : Occurrence → Bool
  | began _ => true
  | _ => false

def Occurrence.isCallback : Occurrence → Bool
  | calledBack _ _ => true
  | _ => false

/-- The call that the owner of a connection waits for. -/
def Activity.call? : Activity → Option Nat
  | called call _ => some call
  | attempting a => some a.call
  | resting | closing _ | gone => none

namespace Life

/-! ## Accounts -/

/-- What was seen of one call. -/
def about (call : Nat) (os : List Occurrence) : List Occurrence :=
  os.filter fun o => o.call? = some call

/-- How often the callback of a call has run. -/
def callbacks (call : Nat) (os : List Occurrence) : Nat :=
  (about call os).countP Occurrence.isCallback

section

variable (call : Nat)

@[simp] theorem about_nil : about call [] = [] := rfl

@[simp] theorem about_append (os later : List Occurrence) :
    about call (os ++ later) = about call os ++ about call later :=
  List.filter_append ..

@[simp] theorem about_effects (effects : List Effect) :
    about call (effects.map .effect) = [] := by
  simp [about, Occurrence.call?]

@[simp] theorem about_effect (effect : Effect) : about call [.effect effect] = [] :=
  about_effects call [effect]

@[simp] theorem about_bound (answer : Except ConnectionError Unit) :
    about call [.bound answer] = [] := by
  simp [about, Occurrence.call?]

theorem about_cons_of_call {o : Occurrence} (h : o.call? = some call) (os : List Occurrence) :
    about call (o :: os) = o :: about call os := by
  simp [about, h]

theorem about_cons_of_other {o : Occurrence} (h : o.call? ≠ some call) (os : List Occurrence) :
    about call (o :: os) = about call os := by
  simp [about, h]

/-- A report is about its own call only. -/
theorem seen_call {r : Report} {o : Occurrence} (h : o ∈ r.seen call) : o.call? = some call := by
  rcases List.mem_append.mp h with hcallback | hending
  · obtain ⟨outcome, -, rfl⟩ := List.mem_map.mp hcallback
    rfl
  · rw [List.mem_singleton.mp hending]
    split
    · rfl
    · rfl

@[simp] theorem about_seen (r : Report) : about call (r.seen call) = r.seen call := by
  apply List.filter_eq_self.mpr
  intro o ho
  simpa using seen_call call ho

theorem about_seen_of_other {other : Nat} (h : other ≠ call) (r : Report) :
    about call (r.seen other) = [] := by
  apply List.filter_eq_nil_iff.mpr
  intro o ho
  simpa [seen_call other ho] using h

theorem callbacks_about (os : List Occurrence) :
    callbacks call (about call os) = callbacks call os := by
  simp [callbacks, about]

theorem mem_about {o : Occurrence} {os : List Occurrence} (h : o.call? = some call) :
    o ∈ about call os ↔ o ∈ os := by
  simp [about, h]

end

/-- The account of a call that was never made or is over. -/
inductive Closed (call : Nat) : List Occurrence → Prop where
  | unused : Closed call []
  /-- The connection was not ready. -/
  | refused (delivery : Delivery) (e : ConnectionError) :
      Closed call [.called call delivery, .returned call (.error e)]
  /-- Dropped before anybody looked at it. -/
  | forgotten (delivery : Delivery) : Closed call [.called call delivery, .dropped call]
  | givenUp (delivery : Delivery) :
      Closed call [.called call delivery, .began call, .dropped call]
  | calledBack (outcome : Except ConnectionError Unit) :
      Closed call [.called call .callback, .began call, .calledBack call outcome,
        .returned call (.ok ())]
  | returned (outcome : Except ConnectionError Unit) :
      Closed call [.called call .returned, .began call, .returned call outcome]

theorem Closed.resolved (call : Nat) (delivery : Delivery) (outcome : Except ConnectionError Unit) :
    Closed call ([.called call delivery, .began call] ++
      (Report.resolved delivery outcome).seen call) := by
  cases delivery with
  | callback => exact .calledBack outcome
  | returned => exact .returned outcome

/-! ## Books -/

/-- The account of the pending call is open, and all others are closed. -/
structure Booked (l : Life) : Prop where
  fresh : ∀ call, l.calls ≤ call → about call l.trace = []
  called : ∀ call delivery, l.activity = .called call delivery →
    about call l.trace = [.called call delivery]
  attempting : ∀ a, l.activity = .attempting a →
    about a.call l.trace = [.called a.call a.delivery, .began a.call]
  closed : ∀ call, l.activity.call? ≠ some call → Closed call (about call l.trace)

variable {l l' : Life} {m : Move}

theorem new_booked (handle : Handle) (now : Instant) : (new handle now).Booked where
  fresh := fun _ _ => rfl
  called := by
    intro call delivery h
    cases h
  attempting := by
    intro a h
    cases h
  closed := fun _ _ => .unused

/-- What happens while no call is pending is about no call. -/
theorem Booked.of_about (h : l.Booked) (hbefore : l.activity.call? = none)
    (hafter : l'.activity.call? = none) (hcalls : l'.calls = l.calls)
    (habout : ∀ call, about call l'.trace = about call l.trace) : l'.Booked where
  fresh := by
    intro call hfresh
    rw [habout]
    exact h.fresh call (hcalls ▸ hfresh)
  called := by
    intro call delivery hactivity
    simp [hactivity, Activity.call?] at hafter
  attempting := by
    intro a hactivity
    simp [hactivity, Activity.call?] at hafter
  closed := by
    intro call _
    rw [habout]
    exact h.closed call (by simp [hbefore])

/-- A call with an account has been made. -/
theorem Booked.made (h : l.Booked) {call : Nat} (hopen : about call l.trace ≠ []) :
    call < l.calls := by
  apply Nat.lt_of_not_le
  intro hfresh
  exact hopen (h.fresh call hfresh)

/-- The account of the call that the owner waits for is open. -/
theorem Booked.of_pending (h : l.Booked) {call : Nat} (hpending : l.activity.call? = some call) :
    ∃ delivery, about call l.trace = [.called call delivery] ∨
      about call l.trace = [.called call delivery, .began call] := by
  cases hactivity : l.activity with
  | called other delivery =>
    obtain rfl : other = call := by simpa [hactivity, Activity.call?] using hpending
    exact ⟨delivery, Or.inl (h.called other delivery hactivity)⟩
  | attempting a =>
    obtain rfl : a.call = call := by simpa [hactivity, Activity.call?] using hpending
    exact ⟨a.delivery, Or.inr (h.attempting a hactivity)⟩
  | resting | closing | gone => simp [hactivity, Activity.call?] at hpending

/-- A call opens its account. -/
theorem Booked.call (h : l.Booked) (hactivity : l.activity = .resting) (delivery : Delivery) :
    (l.call delivery).Booked where
  fresh := by
    intro call hfresh
    have hother : l.calls ≠ call := Nat.ne_of_lt hfresh
    show about call (l.trace ++ [.called l.calls delivery]) = []
    rw [about_append, h.fresh call (Nat.le_of_succ_le hfresh),
      about_cons_of_other call (by simpa [Occurrence.call?] using hother)]
    rfl
  called := by
    intro call _ hcalled
    cases hcalled
    show about l.calls (l.trace ++ [.called l.calls delivery]) = [.called l.calls delivery]
    rw [about_append, h.fresh l.calls (Nat.le_refl _)]
    simp [about, Occurrence.call?]
  attempting := by
    intro a hattempting
    cases hattempting
  closed := by
    intro call hcall
    have hother : l.calls ≠ call := by simpa [Activity.call?] using hcall
    show Closed call (about call (l.trace ++ [.called l.calls delivery]))
    rw [about_append, about_cons_of_other call (by simpa [Occurrence.call?] using hother)]
    simpa using h.closed call (by simp [hactivity, Activity.call?])

/-- A call moves its account on as it begins. -/
theorem Booked.attempt (h : l.Booked) {call : Nat} {delivery : Delivery}
    (hactivity : l.activity = .called call delivery) (task : HandshakeTask) (c : Connection)
    (effects : List Effect) : (l.attempt call delivery task c effects).Booked where
  fresh := by
    intro other hfresh
    have hmade : call < l.calls := h.made (by simp [h.called call delivery hactivity])
    have hother : call ≠ other := Nat.ne_of_lt (Nat.lt_of_lt_of_le hmade hfresh)
    show about other (l.trace ++ .began call :: effects.map .effect) = []
    rw [about_append, h.fresh other hfresh,
      about_cons_of_other other (by simpa [Occurrence.call?] using hother), about_effects]
    rfl
  called := by
    intro _ _ hcalled
    cases hcalled
  attempting := by
    intro a hattempting
    cases hattempting
    show about call (l.trace ++ .began call :: effects.map .effect) = _
    rw [about_append, h.called call delivery hactivity, about_cons_of_call call rfl, about_effects]
    rfl
  closed := by
    intro other hcall
    have hother : call ≠ other := by simpa [Activity.call?, Life.attempt] using hcall
    show Closed other (about other (l.trace ++ .began call :: effects.map .effect))
    rw [about_append, about_cons_of_other other (by simpa [Occurrence.call?] using hother),
      about_effects, List.append_nil]
    exact h.closed other (by simpa [hactivity, Activity.call?] using hother)

/-- A call closes its account as it ends. -/
theorem Booked.conclude (h : l.Booked) {call : Nat} (hactivity : l.activity.call? = some call)
    {account : List Occurrence} (haccount : about call l.trace = account) (hopen : account ≠ [])
    {r : Report} (hclosed : Closed call (account ++ r.seen call)) (c : Connection)
    (effects : List Effect) : (l.conclude call c effects r).Booked where
  fresh := by
    intro other hfresh
    have hmade : call < l.calls := h.made (haccount ▸ hopen)
    have hother : call ≠ other := Nat.ne_of_lt (Nat.lt_of_lt_of_le hmade hfresh)
    rw [conclude_trace, about_append, about_append, h.fresh other hfresh, about_effects,
      about_seen_of_other other hother]
    rfl
  called := by
    intro _ _ hcalled
    cases hcalled
  attempting := by
    intro _ hattempting
    cases hattempting
  closed := by
    intro other _
    rw [conclude_trace, about_append, about_append, about_effects, List.nil_append]
    by_cases hsame : call = other
    · rw [← hsame, about_seen, haccount]
      exact hclosed
    · rw [about_seen_of_other other hsame, List.append_nil]
      exact h.closed other (by simpa [hactivity] using hsame)

theorem booked_step (s : Step l m l') (h : l.Booked) : l'.Booked := by
  cases s with
  | idle | pass | finish => exact ⟨h.fresh, h.called, h.attempting, h.closed⟩
  -- Effects and bindings are about no call.
  | set _ hactivity | initTransport _ _ _ hactivity | drop hactivity =>
    refine h.of_about (by rw [hactivity]; rfl) ?_ rfl fun call => ?_
    · simp [hactivity, Activity.call?]
    · simp [Life.set, Life.initTransport, Life.discard]
  | release hactivity =>
    refine h.of_about (by rw [hactivity]; rfl) rfl rfl fun call => ?_
    simp [Life.beginShutdown]
  | shut hactivity =>
    refine h.of_about (by rw [hactivity]; rfl) rfl rfl fun call => ?_
    simp [Life.beginShutdown, Life.endShutdown]
  | farewell _ hactivity | leave hactivity =>
    refine h.of_about (by rw [hactivity]; rfl) rfl rfl fun call => ?_
    simp [Life.endShutdown, Life.leave]
  | call delivery hactivity => exact h.call hactivity delivery
  | attempt first hactivity hok => exact h.attempt hactivity _ _ _
  -- The account of the pending call is known, and its report closes it.
  | refuse first hactivity herror =>
    apply h.conclude (by rw [hactivity]; rfl) (h.called _ _ hactivity) (by simp)
    exact .refused _ _
  | forget hactivity =>
    apply h.conclude (by rw [hactivity]; rfl) (h.called _ _ hactivity) (by simp)
    exact .forgotten _
  | resolve timerFirst hactivity hpoll =>
    apply h.conclude (by rw [hactivity]; rfl) (h.attempting _ hactivity) (by simp)
    exact .resolved _ _ _
  | giveUp hactivity =>
    apply h.conclude (by rw [hactivity]; rfl) (h.attempting _ hactivity) (by simp)
    exact .givenUp _

/-! ## Counts -/

end Life

/-- No operation leads back to a phase from which a handshake can begin. -/
theorem Connection.Turn.unbegun {c c' : Connection} (turn : Turn c c')
    (h : c'.phase = .idle ∨ c'.phase = .ready) : c.phase = .idle ∨ c.phase = .ready := by
  cases turn with
  | stay | release => exact h
  | set s => simpa using h
  | bind _ _ _ hidle => exact Or.inl hidle
  | begin _ hready => exact Or.inr hready
  | conclude result =>
    rcases conclude_cases c result with ⟨_, -, -, heq⟩ | ⟨_, -, -, heq⟩
    · simp [heq] at h
    · simp [heq] at h
  | expire | shut | farewell =>
    rcases h with hidle | hready
    · cases hidle
    · cases hready

namespace Life

variable {l l' : Life} {m : Move}

/-- One call at most has begun, and no callback runs for any other. -/
structure Single (l : Life) : Prop where
  unbegun : l.connection.phase = .idle ∨ l.connection.phase = .ready →
    l.trace.countP Occurrence.isBegan = 0
  began : l.trace.countP Occurrence.isBegan ≤ 1
  callbacks : l.trace.countP Occurrence.isCallback ≤ l.trace.countP Occurrence.isBegan
  /-- A call that waits has not been called back. -/
  attempting : ∀ a, l.activity = .attempting a → l.trace.countP Occurrence.isCallback = 0 ∧
    l.trace.countP Occurrence.isBegan = 1

@[simp] theorem isBegan_effect : Occurrence.isBegan ∘ Occurrence.effect = fun _ => false := rfl

@[simp] theorem isCallback_effect : Occurrence.isCallback ∘ Occurrence.effect = fun _ => false :=
  rfl

@[simp] theorem seen_began (r : Report) (call : Nat) :
    (r.seen call).countP Occurrence.isBegan = 0 := by
  apply List.countP_eq_zero.mpr
  intro o ho
  rcases List.mem_append.mp ho with hcallback | hending
  · obtain ⟨outcome, -, rfl⟩ := List.mem_map.mp hcallback
    simp [Occurrence.isBegan]
  · rw [List.mem_singleton.mp hending]
    split
    · simp [Occurrence.isBegan]
    · simp [Occurrence.isBegan]

theorem resolved_callbacks (delivery : Delivery) (outcome : Except ConnectionError Unit)
    (call : Nat) :
    ((Report.resolved delivery outcome).seen call).countP Occurrence.isCallback ≤ 1 := by
  cases delivery with
  | callback => exact Nat.le_refl 1
  | returned => exact Nat.zero_le 1

theorem new_single (handle : Handle) (now : Instant) : (new handle now).Single where
  unbegun := fun _ => rfl
  began := Nat.zero_le 1
  callbacks := Nat.le_refl 0
  attempting := by
    intro a h
    cases h

/-- Steps that begin no call and run no callback keep the counts. -/
theorem Single.quiet (h : l.Single) (turn : Connection.Turn l.connection l'.connection)
    (hbegan : l'.trace.countP Occurrence.isBegan = l.trace.countP Occurrence.isBegan)
    (hcallbacks : l'.trace.countP Occurrence.isCallback = l.trace.countP Occurrence.isCallback)
    (hactivity : ∀ a, l'.activity ≠ .attempting a) : l'.Single where
  unbegun := fun hphase => by rw [hbegan]; exact h.unbegun (turn.unbegun hphase)
  began := by rw [hbegan]; exact h.began
  callbacks := by rw [hbegan, hcallbacks]; exact h.callbacks
  attempting := fun a hattempting => absurd hattempting (hactivity a)

theorem single_step (hsound : l.Sound) (s : Step l m l') (h : l.Single) : l'.Single := by
  have hturn := step_turn hsound s
  cases s with
  | idle | pass | finish => exact ⟨h.unbegun, h.began, h.callbacks, h.attempting⟩
  | @attempt call delivery task first hactivity hok =>
    obtain ⟨hready, hhandshaking⟩ := Connection.phase_of_start_ok hsound.shaped hok
    -- The connection was ready, so this is the first call that begins.
    have hunbegun := h.unbegun (Or.inr hready)
    have hcallbacks : l.trace.countP Occurrence.isCallback = 0 :=
      Nat.le_zero.mp (hunbegun ▸ h.callbacks)
    have hbegan : (l.attempt call delivery task (l.connection.start l.now).connection
        (l.connection.start l.now).effects).trace.countP Occurrence.isBegan = 1 := by
      simp [Life.attempt, List.countP_cons, hunbegun, Occurrence.isBegan]
    have hquiet : (l.attempt call delivery task (l.connection.start l.now).connection
        (l.connection.start l.now).effects).trace.countP Occurrence.isCallback = 0 := by
      simp [Life.attempt, hcallbacks, Occurrence.isCallback]
    refine ⟨fun hphase => ?_, Nat.le_of_eq hbegan, by rw [hquiet]; exact Nat.zero_le _,
      fun _ _ => ⟨hquiet, hbegan⟩⟩
    simp [Life.attempt, hhandshaking] at hphase
  | @resolve a o timerFirst hactivity hpoll =>
    obtain ⟨hcallbacks, hbegan⟩ := h.attempting a hactivity
    have hstill : (l.conclude a.call o.connection o.effects
        (.resolved a.delivery o.result)).trace.countP Occurrence.isBegan = 1 := by
      simp [hbegan]
    refine ⟨fun hphase => ?_, Nat.le_of_eq hstill, ?_, fun _ hattempting => ?_⟩
    · -- A call has begun, so the connection was past `ready` before.
      have hunbegun := h.unbegun (hturn.unbegun hphase)
      rw [hbegan] at hunbegun
      cases hunbegun
    · rw [hstill]
      simpa [hcallbacks] using resolved_callbacks a.delivery o.result a.call
    · cases hattempting
  | set _ hactivity | initTransport _ _ _ hactivity =>
    refine h.quiet hturn ?_ ?_ fun a => ?_
    · simp [Life.set, Life.initTransport, Occurrence.isBegan]
    · simp [Life.set, Life.initTransport, Occurrence.isCallback]
    · simp [hactivity]
  -- What is left begins no call, and its reports hold no callback.
  | _ =>
    refine h.quiet hturn ?_ ?_ fun a => by simp
    · simp [Life.call, Life.giveUp, Life.beginShutdown, Life.endShutdown, Life.leave, Life.discard,
        Occurrence.isBegan]
    · simp [Life.call, Life.giveUp, Life.beginShutdown, Life.endShutdown, Life.leave, Life.discard,
        Report.seen, Report.refused, Report.cancelled, Occurrence.isCallback]

/-! ## Every call -/

/-- How often the callback of a call has run, told by how the call has ended. -/
structure Settled (call : Nat) (os : List Occurrence) : Prop where
  ok : .returned call (.ok ()) ∈ os → callbacks call os = 1
  error : ∀ e, .returned call (.error e) ∈ os → callbacks call os = 0
  dropped : .dropped call ∈ os → callbacks call os = 0
  pending : (∀ answer, .returned call answer ∉ os) → .dropped call ∉ os → callbacks call os = 0

/-- Only what was seen of a call counts. -/
theorem Settled.of_about {call : Nat} {os : List Occurrence} (h : Settled call (about call os)) :
    Settled call os := by
  have hreturned (answer : Except ConnectionError Unit) :
      .returned call answer ∈ about call os ↔ .returned call answer ∈ os := mem_about call rfl
  have hdropped : .dropped call ∈ about call os ↔ .dropped call ∈ os := mem_about call rfl
  obtain ⟨hok, herror, hgone, hpending⟩ := h
  simp only [callbacks_about, hreturned, hdropped] at hok herror hgone hpending
  exact ⟨hok, herror, hgone, hpending⟩

theorem Closed.settled {call : Nat} {account : List Occurrence} (h : Closed call account)
    (hinit : .called call .callback ∈ account) : Settled call account := by
  cases h with
  | unused => cases hinit
  | returned outcome => simp at hinit
  | refused | forgotten | givenUp | calledBack =>
    constructor <;>
      simp [callbacks, about, List.countP_cons, Occurrence.call?, Occurrence.isCallback]

/-- Nothing of a pending call is seen but that it was made and has begun. -/
theorem Settled.of_pending {call : Nat} {account : List Occurrence}
    (h : ∀ o ∈ account, o = .began call ∨ ∃ delivery, o = .called call delivery) :
    Settled call account := by
  have hnone : callbacks call account = 0 := by
    apply List.countP_eq_zero.mpr
    intro o ho
    rcases h o (List.mem_filter.mp ho).1 with rfl | ⟨delivery, rfl⟩
    · simp [Occurrence.isCallback]
    · simp [Occurrence.isCallback]
  have hreturned (answer : Except ConnectionError Unit) : .returned call answer ∉ account := by
    intro ho
    rcases h _ ho with heq | ⟨delivery, heq⟩
    · cases heq
    · cases heq
  exact ⟨fun ho => absurd ho (hreturned _), fun _ _ => hnone, fun _ => hnone, fun _ _ => hnone⟩

theorem Booked.settled (h : l.Booked) {call : Nat} (hinit : .called call .callback ∈ l.trace) :
    Settled call l.trace := by
  have haccount : .called call .callback ∈ about call l.trace := (mem_about call rfl).mpr hinit
  apply Settled.of_about
  by_cases hpending : l.activity.call? = some call
  · apply Settled.of_pending
    obtain ⟨delivery, hmade | hbegun⟩ := h.of_pending hpending
    · simp [hmade]
    · simp [hbegun]
  · exact (h.closed call hpending).settled haccount

theorem booked_run (handle : Handle) (now : Instant) (moves : List Move) :
    ((new handle now).run moves).Booked :=
  run_induction moves (new_booked handle now) fun _ _ _ _ s h => booked_step s h

theorem single_run (handle : Handle) (now : Instant) (moves : List Move) :
    ((new handle now).run moves).Single := by
  have hkept : ((new handle now).run moves).Sound ∧ ((new handle now).run moves).Single := by
    refine run_induction (P := fun l => l.Sound ∧ l.Single) moves
      ⟨new_sound handle now, new_single handle now⟩ ?_
    rintro l l' m - s ⟨hsound, hsingle⟩
    exact ⟨sound_step hsound s, single_step hsound s hsingle⟩
  exact hkept.2

theorem mem_trace_run {o : Occurrence} (h : o ∈ l.trace) (moves : List Move) :
    o ∈ (l.run moves).trace :=
  run_induction (P := fun l => o ∈ l.trace) moves h fun _ _ _ _ s => mem_trace_step s

/-- **Exactly one completion.** Over the whole life of a connection, one call at most gets past the
check of the phase and one callback at most is run. The callback of a call has run once if the call
has returned well, and has not run if the call has returned an error, was dropped or still waits;
and once the call is over, nothing that happens later runs it. -/
theorem completes_exactly_once (handle : Handle) (now : Instant) (moves later : List Move) :
    let l := (new handle now).run moves
    l.trace.countP Occurrence.isBegan ≤ 1 ∧ l.trace.countP Occurrence.isCallback ≤ 1 ∧
      ∀ call, .called call .callback ∈ l.trace →
        Settled call l.trace ∧
        ((∃ answer, .returned call answer ∈ l.trace) ∨ .dropped call ∈ l.trace →
          callbacks call (l.run later).trace = callbacks call l.trace) := by
  intro l
  have hsingle : l.Single := single_run handle now moves
  refine ⟨hsingle.began, Nat.le_trans hsingle.callbacks hsingle.began, ?_⟩
  intro call hinit
  have hsettled : Settled call l.trace := (booked_run handle now moves).settled hinit
  -- The books of the longer life settle the same call again.
  have hlater : Settled call (l.run later).trace := by
    have hbooked := booked_run handle now (moves ++ later)
    rw [run_append] at hbooked
    exact hbooked.settled (mem_trace_run hinit later)
  refine ⟨hsettled, ?_⟩
  rintro (⟨answer, hreturned⟩ | hdropped)
  · cases answer with
    | ok => rw [hsettled.ok hreturned, hlater.ok (mem_trace_run hreturned later)]
    | error e => rw [hsettled.error e hreturned, hlater.error e (mem_trace_run hreturned later)]
  · rw [hsettled.dropped hdropped, hlater.dropped (mem_trace_run hdropped later)]

end Life

end BoundedTls
