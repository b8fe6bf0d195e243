import BoundedTls.Proofs.Time.Deadline

/-!
# A timer remembers its last deed

A timer can be armed, called off and waited for in any order, and a wait can be dropped half way.
What it answers is told by the last operation that had an effect: a new timer that was made, a
deadline that was set, a deadline that was called off, or a wait that saw the deadline pass. A call
that is refused and a wait that is dropped leave no mark.

A wait has no state of its own, so one that is looked at now and then is a look each time, with the
clock moving in between.

## Architecture

- **Histories**: the operations on a timer, each with its answer and the clock at its start
  (`Timer.Bench.history`).
- **Deeds**: the operations that had an effect, and the last of them (`Timer.latest`).
- **Looks**: what a wait sees, told by the last deed (`Timer.Deed.poll_cases`).
- **Runs**: the timer is always as its last deed left it (`Timer.Deed.Leaves`).
-/

namespace BoundedTls.Time.Timer

/-! ## Histories -/

/-- An operation with its answer, and the clock as it began. -/
structure Entry where
  start : Instant
  action : Action
  answer : Answer

namespace Bench

/-- A new timer on a clock that reads `now`. -/
def startAt (now : Instant) : Bench :=
  ⟨now, Timer.new now⟩

def entry (b : Bench) (a : Action) : Entry :=
  ⟨b.now, a, (b.step a).1⟩

def history (b : Bench) : List Action → List Entry
  | [] => []
  | a :: rest => b.entry a :: (b.step a).2.history rest

/-- The bench after all these operations. -/
def after (b : Bench) (actions : List Action) : Bench :=
  actions.foldl (fun b a => (b.step a).2) b

@[simp] theorem after_nil (b : Bench) : b.after [] = b := rfl

@[simp] theorem after_cons (b : Bench) (a : Action) (rest : List Action) :
    b.after (a :: rest) = (b.step a).2.after rest := rfl

/-- A history records the answers of its run. -/
theorem history_answers (b : Bench) (actions : List Action) :
    (b.history actions).map Entry.answer = (b.run actions).map Prod.fst := by
  induction actions generalizing b with
  | nil => rfl
  | cons a rest ih =>
    simp only [history, run, List.map_cons]
    rw [ih]
    rfl

end Bench

/-! ## Deeds -/

/-- The operation is a wait, to the end or in part. -/
def Action.isWait : Action → Bool
  | wait | waitAtMost _ | poll => true
  | renew | expiresAfter _ | cancel | advance _ => false

/-- The operation sets a deadline, or makes a new timer. -/
def Action.isFresh : Action → Bool
  | renew | expiresAfter _ => true
  | cancel | advance _ | wait | waitAtMost _ | poll => false

/-- An operation that had an effect. -/
inductive Deed where
  /-- The timer was made. -/
  | made (start : Instant)
  | armed (start : Instant) (d : Duration)
  | cancelled
  | expired
deriving DecidableEq, Repr

def Deed.isArmed : Deed → Bool
  | armed _ _ => true
  | made _ | cancelled | expired => false

/-- The deed that an operation was, told by its answer. -/
def Entry.deed? (e : Entry) : Option Deed :=
  match e.action, e.answer with
  | .renew, _ => some (.made e.start)
  | .expiresAfter d, _ => some (.armed e.start d)
  | .cancel, .cancelled true => some .cancelled
  | .wait, .observed .expired
  | .waitAtMost _, .observed .expired
  | .poll, .observed .expired => some .expired
  | _, _ => none

/-- The last deed of a history that follows on another deed. -/
def latest (before : Deed) (history : List Entry) : Deed :=
  (history.filterMap Entry.deed?).getLastD before

@[simp] theorem latest_nil (before : Deed) : latest before [] = before := rfl

/-- A deed takes the place of those before it. -/
theorem latest_cons (before : Deed) (e : Entry) (rest : List Entry) :
    latest before (e :: rest) = latest (e.deed?.getD before) rest := by
  unfold latest
  cases hdeed : e.deed? with
  | none => rw [List.filterMap_cons_none hdeed, Option.getD_none]
  | some deed => rw [List.filterMap_cons_some hdeed, List.getLastD_cons, Option.getD_some]

/-- The timer that a deed leaves. -/
inductive Deed.Leaves : Deed → Timer → Prop where
  | made (start : Instant) : Leaves (.made start) (Timer.new start)
  | armed (start : Instant) (d : Duration) :
      Leaves (.armed start d) ⟨deadlineAfter start d, .armed⟩
  -- The deadline stays in the timer and counts for nothing.
  | cancelled (deadline : Instant) : Leaves .cancelled ⟨deadline, .cancelled⟩
  | expired (deadline : Instant) : Leaves .expired ⟨deadline, .expired⟩

variable {deed : Deed} {timer : Timer} {b : Bench} {a : Action}

/-! ## Looks -/

/-- What a look sees, told by the last deed. -/
theorem Deed.poll_cases (h : deed.Leaves timer) (t : Instant) :
    (deed = .cancelled ∧ timer.poll t = (some .aborted, timer)) ∨
      (deed ≠ .cancelled ∧
        ((∃ deadline, timer.poll t = (some .expired, ⟨deadline, .expired⟩)) ∨
          timer.poll t = (none, timer))) := by
  cases h with
  | cancelled deadline => exact Or.inl ⟨rfl, rfl⟩
  | expired deadline => exact Or.inr ⟨by simp, Or.inl ⟨deadline, rfl⟩⟩
  | made start =>
    refine Or.inr ⟨by simp, ?_⟩
    by_cases hdue : roundUp start ≤ t
    · exact Or.inl ⟨start, by simp [poll, Timer.new, hdue]⟩
    · exact Or.inr (by simp [poll, Timer.new, hdue])
  | armed start d =>
    refine Or.inr ⟨by simp, ?_⟩
    by_cases hdue : roundUp (deadlineAfter start d) ≤ t
    · exact Or.inl ⟨deadlineAfter start d, by simp [poll, hdue]⟩
    · exact Or.inr (by simp [poll, hdue])

/-- A look at the instant at which a wait ends sees something. -/
theorem poll_wakeAt (timer : Timer) (now : Instant) :
    ∃ event, (timer.poll (timer.wakeAt now)).1 = some event := by
  obtain ⟨deadline, state⟩ := timer
  cases state with
  | cancelled => exact ⟨.aborted, rfl⟩
  | expired => exact ⟨.expired, rfl⟩
  | idle | armed =>
    have hdue : roundUp deadline ≤ max now (roundUp deadline) := Nat.le_max_right ..
    exact ⟨.expired, congrArg Prod.fst (if_pos hdue)⟩

/-- A wait that is never given up comes to its end. -/
theorem Bench.wait_completes (b : Bench) : ∃ event, (b.step .wait).1 = .observed event := by
  obtain ⟨event, hevent⟩ := poll_wakeAt b.timer b.now
  exact ⟨event, by simp [Bench.step, Bench.lookAt, hevent]⟩

/-- A wait is a look at some instant, or it is given up before there is anything to see. -/
theorem Bench.step_of_isWait (ha : a.isWait = true) (b : Bench) :
    (∃ t, b.step a = b.lookAt t .pending) ∨ ∃ t, b.step a = (.gaveUp, { b with now := t }) := by
  cases a with
  | wait => exact Or.inl ⟨_, rfl⟩
  | poll => exact Or.inl ⟨_, rfl⟩
  | waitAtMost limit =>
    simp only [Bench.step]
    split
    · exact Or.inl ⟨_, rfl⟩
    · exact Or.inr ⟨_, rfl⟩
  | renew | expiresAfter | cancel | advance => cases ha

/-- What a wait comes to, told by the last deed. -/
theorem Deed.wait_cases (h : deed.Leaves b.timer) (ha : a.isWait = true) :
    (deed = .cancelled ∧ (b.step a).1 = .observed .aborted ∧ (b.step a).2.timer = b.timer) ∨
    (deed ≠ .cancelled ∧ (b.step a).1 = .observed .expired ∧
      ∃ deadline, (b.step a).2.timer = ⟨deadline, .expired⟩) ∨
    (((b.step a).1 = .pending ∨ (b.step a).1 = .gaveUp) ∧ (b.step a).2.timer = b.timer) := by
  rcases Bench.step_of_isWait ha b with ⟨t, hlook⟩ | ⟨t, hgaveUp⟩
  · rw [hlook]
    rcases Deed.poll_cases h t with ⟨hdeed, hpoll⟩ | ⟨hdeed, ⟨deadline, hpoll⟩ | hpoll⟩
    · exact Or.inl ⟨hdeed, by simp [Bench.lookAt, hpoll], by simp [Bench.lookAt, hpoll]⟩
    · refine Or.inr (Or.inl ⟨hdeed, ?_, deadline, ?_⟩)
      · simp [Bench.lookAt, hpoll]
      · simp [Bench.lookAt, hpoll]
    · refine Or.inr (Or.inr ⟨Or.inl ?_, ?_⟩)
      · simp [Bench.lookAt, hpoll]
      · simp [Bench.lookAt, hpoll]
  · rw [hgaveUp]
    exact Or.inr (Or.inr ⟨Or.inr rfl, rfl⟩)

/-- A wait marks the history by the expiry that it has seen, and by nothing else. -/
theorem Bench.deed?_of_isWait (ha : a.isWait = true) (b : Bench) :
    (b.entry a).deed? = if (b.step a).1 = .observed .expired then some .expired else none := by
  unfold Entry.deed? Bench.entry
  cases a with
  | wait | waitAtMost | poll =>
    generalize (b.step _).1 = answer
    cases answer with
    | observed event => cases event <;> rfl
    | done | cancelled | gaveUp | pending => rfl
  | renew | expiresAfter | cancel | advance => cases ha

/-! ## Runs -/

/-- **The timer is as its last deed left it.** -/
theorem Deed.leaves_step (h : deed.Leaves b.timer) (a : Action) :
    ((b.entry a).deed?.getD deed).Leaves (b.step a).2.timer := by
  by_cases ha : a.isWait = true
  · rw [Bench.deed?_of_isWait ha]
    rcases Deed.wait_cases h ha with ⟨-, hanswer, hsame⟩ | ⟨-, hanswer, deadline, hexpired⟩ |
      ⟨hanswer, hsame⟩
    · rw [hanswer, hsame]
      exact h
    · rw [hanswer, hexpired]
      exact .expired deadline
    · rw [hsame]
      rcases hanswer with hpending | hgaveUp
      · rw [hpending]
        exact h
      · rw [hgaveUp]
        exact h
  · obtain ⟨now, timer⟩ := b
    cases a with
    | renew => exact .made now
    | expiresAfter d => exact .armed now d
    | advance d => exact h
    | cancel =>
      -- Only a timer that counts down is called off.
      cases h with
      | armed start d => exact .cancelled _
      | made start => exact .made start
      | cancelled deadline => exact .cancelled deadline
      | expired deadline => exact .expired deadline
    | wait | waitAtMost | poll => simp [Action.isWait] at ha

theorem Deed.leaves_run (h : deed.Leaves b.timer) (actions : List Action) :
    (latest deed (b.history actions)).Leaves (b.after actions).timer := by
  -- Every operation may be a deed of its own, so the deed before the run is general.
  induction actions generalizing b deed with
  | nil => exact h
  | cons a rest ih =>
    simp only [Bench.history, latest_cons]
    exact ih (leaves_step h a)

/-! ## Every history -/

/-- What the operations on a timer answer after a deed. -/
structure Answers (deed : Deed) (b : Bench) : Prop where
  /-- There is something to call off exactly after a deadline was set. -/
  cancel : (b.step .cancel).1 = .cancelled deed.isArmed
  refused : (b.step .cancel).1 = .cancelled false → (b.step .cancel).2 = b
  completes : ∃ event, (b.step .wait).1 = .observed event
  aborted_iff : ∀ a event, (b.step a).1 = .observed event →
    (event = .aborted ↔ deed = .cancelled)
  atOnce : deed = .cancelled → ∀ a, a.isWait = true → b.step a = (.observed .aborted, b)
  dropped : ∀ a, (b.step a).1 = .gaveUp ∨ (b.step a).1 = .pending →
    (b.step a).2.timer = b.timer

/-- Only a wait sees an event, is given up or stays pending. -/
theorem Bench.isWait_of_answer
    (h : (b.step a).1 = .gaveUp ∨ (b.step a).1 = .pending ∨
      ∃ event, (b.step a).1 = .observed event) : a.isWait = true := by
  cases a with
  | wait | waitAtMost | poll => rfl
  | renew | expiresAfter | cancel | advance => simp [Bench.step] at h

theorem Deed.Leaves.answers (h : deed.Leaves b.timer) : Answers deed b where
  cancel := by
    obtain ⟨now, timer⟩ := b
    cases h <;> rfl
  refused := by
    obtain ⟨now, timer⟩ := b
    cases h with
    | armed => intro hrefused; cases hrefused
    | made | cancelled | expired => intro _; rfl
  completes := b.wait_completes
  aborted_iff := by
    intro a event hevent
    have ha : a.isWait = true := Bench.isWait_of_answer (Or.inr (Or.inr ⟨event, hevent⟩))
    rcases Deed.wait_cases h ha with ⟨hdeed, hanswer, -⟩ | ⟨hdeed, hanswer, -⟩ | ⟨hanswer, -⟩
    · obtain rfl : event = .aborted := by simpa [hanswer] using hevent.symm
      simp [hdeed]
    · obtain rfl : event = .expired := by simpa [hanswer] using hevent.symm
      simp [hdeed]
    · simp [hevent] at hanswer
  atOnce := by
    rintro rfl a ha
    obtain ⟨now, timer⟩ := b
    cases h
    cases a with
    | wait => rfl
    | poll => rfl
    | waitAtMost limit => exact if_pos (Nat.le_max_left ..)
    | renew | expiresAfter | cancel | advance => cases ha
  dropped := by
    intro a hdropped
    have ha : a.isWait = true := Bench.isWait_of_answer (hdropped.imp_right Or.inl)
    rcases Deed.wait_cases h ha with ⟨-, -, hsame⟩ | ⟨-, hanswer, -⟩ | ⟨-, hsame⟩
    · exact hsame
    · simp [hanswer] at hdropped
    · exact hsame

/-- Only a new deadline or a new timer, or an expiry that is seen, follows on a deadline that was
called off. -/
theorem Entry.deed?_of_quiet {e : Entry} (hold : e.action.isFresh = false)
    (hanswer : e.answer ≠ .observed .expired) : e.deed?.getD .cancelled = .cancelled := by
  obtain ⟨start, action, answer⟩ := e
  unfold Entry.deed?
  split <;> simp_all [Action.isFresh]

/-- Between a deadline that was called off and the next one that is set, no expiry is seen. -/
theorem Deed.no_expiry (h : Deed.Leaves .cancelled b.timer) {meanwhile : List Action}
    (hmeanwhile : ∀ a ∈ meanwhile, a.isFresh = false) :
    ∀ e ∈ b.history meanwhile, e.answer ≠ .observed .expired := by
  induction meanwhile generalizing b with
  | nil => simp [Bench.history]
  | cons a rest ih =>
    have hquiet : (b.entry a).answer ≠ .observed .expired := by
      intro hexpired
      simpa using (h.answers.aborted_iff a .expired hexpired).mpr rfl
    have hstill : Deed.Leaves .cancelled (b.step a).2.timer := by
      have hnext := leaves_step h a
      rwa [Entry.deed?_of_quiet (hmeanwhile a List.mem_cons_self) hquiet] at hnext
    intro e he
    rcases List.mem_cons.mp he with rfl | hrest
    · exact hquiet
    · apply ih hstill _ e hrest
      intro a' ha'
      exact hmeanwhile a' (List.mem_cons_of_mem _ ha')

/-- **A timer follows its last deed.** After any history of operations, waits that end and waits
that are dropped, the last deed tells what the next operation answers. No expiry is seen between a
deadline that was called off and the next one that is set, even if the old one passes. Once a
deadline is set, all that follows depends on the clock at that instant and on the timeout, and not
on what the timer went through before. -/
theorem follows_latest_deed (start : Instant) (actions : List Action) :
    let b := (Bench.startAt start).after actions
    Answers (latest (.made start) ((Bench.startAt start).history actions)) b ∧
      ((b.step .cancel).1 = .cancelled true → ∀ meanwhile, (∀ a ∈ meanwhile, a.isFresh = false) →
        ∀ e ∈ (b.step .cancel).2.history meanwhile, e.answer ≠ .observed .expired) ∧
      ∀ other : Bench, other.now = b.now → ∀ d later,
        (b.step (.expiresAfter d)).2.run later = (other.step (.expiresAfter d)).2.run later := by
  intro b
  have hleft : (latest (.made start) ((Bench.startAt start).history actions)).Leaves b.timer :=
    Deed.leaves_run (.made start) actions
  refine ⟨hleft.answers, ?_, ?_⟩
  · intro hcancelled meanwhile hmeanwhile
    apply Deed.no_expiry _ hmeanwhile
    -- What was called off was the last deed, and the call is the deed that follows on it.
    have hnext := Deed.leaves_step hleft .cancel
    simpa [Bench.entry, Entry.deed?, hcancelled] using hnext
  · intro other hclock d later
    have hsame : (b.step (.expiresAfter d)).2 = (other.step (.expiresAfter d)).2 := by
      simp [Bench.step, Timer.expiresAfter, hclock]
    rw [hsame]

end BoundedTls.Time.Timer
