import BoundedTls.Proofs.Time.History

/-!
# Waiting for a deadline

A deadline that is set lies where its timeout says, as far as the clock can hold it. From then on it
is waited for: in one go, in parts that are given up, by looking now and then, or while the clock
moves for other reasons. The first wait that ends sees the deadline pass, never before it has; and
if nothing but waiting takes time, the wait ends on the millisecond that the deadline falls on, in
whatever parts it was waited for.
-/

namespace BoundedTls.Time.Timer

variable {b : Bench} {a : Action} {deadline : Instant}

/-- The operation does no more than let time pass. -/
def Action.isPatient : Action → Bool
  | advance _ | wait | waitAtMost _ | poll => true
  | renew | expiresAfter _ | cancel => false

/-- No wait has come to its end. -/
def Unseen (history : List Entry) : Prop :=
  ∀ e ∈ history, ∀ event, e.answer ≠ .observed event

/-! ## One wait -/

/-- What waiting does to a timer that counts down: it ends, or the timer is left as it was. -/
inductive Waited (b : Bench) (a : Action) (deadline : Instant) : Prop where
  | ended : (b.step a).1 = .observed .expired →
      (b.step a).2.now = max b.now (roundUp deadline) → Waited b a deadline
  | goesOn : (∀ event, (b.step a).1 ≠ .observed event) → (b.step a).2.timer = b.timer →
      b.now ≤ (b.step a).2.now →
      (a.isWait = true → (b.step a).2.now ≤ max b.now (roundUp deadline)) → Waited b a deadline

theorem Bench.lookAt_armed (h : b.timer = ⟨deadline, .armed⟩) (t : Instant) (missing : Answer) :
    b.lookAt t missing =
      if roundUp deadline ≤ t then (.observed .expired, ⟨t, ⟨deadline, .expired⟩⟩)
      else (missing, ⟨t, b.timer⟩) := by
  unfold Bench.lookAt
  rw [h, poll_armed]
  by_cases hdue : roundUp deadline ≤ t
  · rw [if_pos hdue, if_pos hdue]
    rfl
  · rw [if_neg hdue, if_neg hdue]
    rfl

/-- A wait that looks at the timer, now or when it is due at the latest. -/
theorem Waited.of_look (h : b.timer = ⟨deadline, .armed⟩) {t : Instant}
    (hstep : b.step a = b.lookAt t .pending) (hfrom : b.now ≤ t)
    (hto : t ≤ max b.now (roundUp deadline)) : Waited b a deadline := by
  rw [Bench.lookAt_armed h] at hstep
  by_cases hdue : roundUp deadline ≤ t
  · rw [if_pos hdue] at hstep
    apply Waited.ended
    · rw [hstep]
    · rw [hstep]
      exact Nat.le_antisymm hto (Nat.max_le.mpr ⟨hfrom, hdue⟩)
  · rw [if_neg hdue] at hstep
    apply Waited.goesOn
    · simp [hstep]
    · rw [hstep]
    · rwa [hstep]
    · intro _
      rwa [hstep]

theorem Bench.waited_step (h : b.timer = ⟨deadline, .armed⟩) (ha : a.isPatient = true) :
    Waited b a deadline := by
  have hwake : b.timer.wakeAt b.now = max b.now (roundUp deadline) := by
    rw [h]
    rfl
  cases a with
  | wait =>
    apply Waited.of_look h rfl
    · rw [hwake]
      exact Nat.le_max_left _ _
    · exact Nat.le_of_eq hwake
  | poll => exact Waited.of_look h rfl (Nat.le_refl _) (Nat.le_max_left _ _)
  | waitAtMost limit =>
    by_cases hgive : b.timer.wakeAt b.now ≤ max b.now (roundUp (deadlineAfter b.now limit))
    · have hlook : b.step (.waitAtMost limit) = b.lookAt (b.timer.wakeAt b.now) .pending := by
        simp only [Bench.step]
        rw [if_pos hgive]
      apply Waited.of_look h hlook
      · rw [hwake]
        exact Nat.le_max_left _ _
      · exact Nat.le_of_eq hwake
    · have hgaveUp : b.step (.waitAtMost limit) =
          (.gaveUp, { b with now := max b.now (roundUp (deadlineAfter b.now limit)) }) := by
        simp only [Bench.step]
        rw [if_neg hgive]
      rw [hwake] at hgive
      apply Waited.goesOn
      · simp [hgaveUp]
      · rw [hgaveUp]
      · rw [hgaveUp]
        exact Nat.le_max_left _ _
      · intro _
        rw [hgaveUp]
        exact Nat.le_of_lt (Nat.lt_of_not_le hgive)
  | advance d =>
    -- Taken apart, so that the timers are compared without the clocks.
    obtain ⟨now, timer⟩ := b
    apply Waited.goesOn
    · intro event hevent
      cases hevent
    · rfl
    · show now ≤ now + d.total
      exact Nat.le_add_right _ _
    · intro hwait
      cases hwait
  | renew | expiresAfter | cancel => cases ha

/-! ## Waiting in parts -/

/-- As long as no wait has come to its end, the timer counts down to the same deadline, and if
nothing but waiting takes time, the clock is not past it. -/
theorem Bench.waited_run (h : b.timer = ⟨deadline, .armed⟩) {waiting : List Action}
    (hpatient : ∀ a ∈ waiting, a.isPatient = true) (hunseen : Unseen (b.history waiting)) :
    (b.after waiting).timer = ⟨deadline, .armed⟩ ∧ b.now ≤ (b.after waiting).now ∧
      ((∀ a ∈ waiting, a.isWait = true) →
        (b.after waiting).now ≤ max b.now (roundUp deadline)) := by
  -- Every part of the waiting starts where the one before was given up, so the bench is general.
  induction waiting generalizing b with
  | nil => exact ⟨h, Nat.le_refl _, fun _ => Nat.le_max_left _ _⟩
  | cons a rest ih =>
    have hfirst : ∀ event, (b.step a).1 ≠ .observed event :=
      hunseen (b.entry a) List.mem_cons_self
    have hrest : Unseen ((b.step a).2.history rest) :=
      fun e he => hunseen e (List.mem_cons_of_mem _ he)
    cases waited_step h (hpatient a List.mem_cons_self) with
    | ended hseen => exact absurd hseen (hfirst _)
    | goesOn _ hsame hlater hbound =>
      obtain ⟨htimer, hnow, hrun⟩ := ih (hsame.trans h)
        (fun a' ha' => hpatient a' (List.mem_cons_of_mem _ ha')) hrest
      refine ⟨htimer, Nat.le_trans hlater hnow, fun hwaits => ?_⟩
      have hclock := hbound (hwaits a List.mem_cons_self)
      calc ((b.step a).2.after rest).now
        _ ≤ max (b.step a).2.now (roundUp deadline) :=
          hrun fun a' ha' => hwaits a' (List.mem_cons_of_mem _ ha')
        _ ≤ max b.now (roundUp deadline) := Nat.max_le.mpr ⟨hclock, Nat.le_max_right _ _⟩

/-- A wait that ends on a timer that counts down has seen the deadline pass. -/
theorem Bench.ended_of_armed (h : b.timer = ⟨deadline, .armed⟩) {event : TimerEvent}
    (hevent : (b.step a).1 = .observed event) :
    event = .expired ∧ (b.step a).2.now = max b.now (roundUp deadline) := by
  have ha : a.isPatient = true := by
    cases a with
    | wait | waitAtMost | poll | advance => rfl
    | renew | expiresAfter | cancel => simp [Bench.step] at hevent
  cases waited_step h ha with
  | ended hseen hclock => exact ⟨by simpa [hseen] using hevent.symm, hclock⟩
  | goesOn hunseen => exact absurd hevent (hunseen event)

/-! ## Every deadline -/

/-- A deadline that is waited for from its start on. -/
theorem Bench.waited_from_start (h : b.timer = ⟨deadline, .armed⟩) (hstart : b.now ≤ deadline)
    {waiting : List Action} (hpatient : ∀ a ∈ waiting, a.isPatient = true)
    (hunseen : Unseen (b.history waiting)) {event : TimerEvent}
    (hevent : ((b.after waiting).step a).1 = .observed event) :
    event = .expired ∧ deadline ≤ ((b.after waiting).step a).2.now ∧
      ((∀ a ∈ waiting, a.isWait = true) →
        FiresAt deadline ((b.after waiting).step a).2.now) := by
  obtain ⟨htimer, -, hbound⟩ := waited_run h hpatient hunseen
  obtain ⟨hexpired, hclock⟩ := ended_of_armed htimer hevent
  rw [hclock]
  refine ⟨hexpired, ?_, fun hwaits => ?_⟩
  · exact Nat.le_trans (le_roundUp _) (Nat.le_max_right _ _)
  · -- The clock was not past the deadline at the start, and waiting has not taken it past.
    have hbefore : (b.after waiting).now ≤ roundUp deadline := by
      apply Nat.le_trans (hbound hwaits)
      exact Nat.le_of_eq (Nat.max_eq_right (Nat.le_trans hstart (le_roundUp _)))
    rw [Nat.max_eq_right hbefore]
    exact firesAt_roundUp _

/-- **A deadline is never early, and its sums fit the clock.** On a clock that holds thirty years
from now, a timeout of any length puts its deadline where it should lie. However it is waited for
from then on, a wait that is not given up ends, and the first one that ends sees the deadline pass,
not before it has; if nothing but waiting takes time, it ends on the first whole millisecond that is
not before the deadline. -/
theorem deadline_is_never_early (b : Bench) (hroom : b.now + farFuture.total ≤ clockEnd)
    (d : Duration) :
    let armed := (b.step (.expiresAfter d)).2
    armed.timer.state = .armed ∧ Placed b.now d armed.timer.deadline ∧
      ∀ waiting, (∀ a ∈ waiting, a.isPatient = true) → Unseen (armed.history waiting) →
        (∃ event, ((armed.after waiting).step .wait).1 = .observed event) ∧
        ∀ a event, ((armed.after waiting).step a).1 = .observed event →
          event = .expired ∧
          armed.timer.deadline ≤ ((armed.after waiting).step a).2.now ∧
          ((∀ a ∈ waiting, a.isWait = true) →
            FiresAt armed.timer.deadline ((armed.after waiting).step a).2.now) := by
  intro armed
  have harmed : armed = ⟨b.now, ⟨deadlineAfter b.now d, .armed⟩⟩ := rfl
  clear_value armed
  subst harmed
  refine ⟨rfl, placed_deadlineAfter hroom d, ?_⟩
  intro waiting hpatient hunseen
  refine ⟨Bench.wait_completes _, fun a event hevent => ?_⟩
  refine Bench.waited_from_start ?_ ?_ hpatient hunseen hevent
  · rfl
  · exact le_deadlineAfter b.now d

/-- A deadline in a millisecond and a half is waited for in two parts, with a look in between. -/
theorem deadline_is_never_early_of_parts :
    let armed := (Bench.start.step (.expiresAfter (.ofParts 0 1500000))).2
    let waiting := [.waitAtMost (.ofMillis 1), .poll]
    Bench.start.now + farFuture.total ≤ clockEnd ∧ Unseen (armed.history waiting) ∧
      (armed.after waiting).step .wait =
        (.observed .expired, ⟨2000000, ⟨1500000, .expired⟩⟩) ∧
      FiresAt armed.timer.deadline ((armed.after waiting).step .wait).2.now := by
  intro armed waiting
  have hroom : Bench.start.now + farFuture.total ≤ clockEnd := by decide
  have hanswers : (armed.history waiting).map Entry.answer = [.gaveUp, .pending] := by
    decide +kernel
  have hend : (armed.after waiting).step .wait =
      (.observed .expired, ⟨2000000, ⟨1500000, .expired⟩⟩) := by decide +kernel
  have hunseen : Unseen (armed.history waiting) := by
    intro e he event hevent
    have hmem : e.answer ∈ [Answer.gaveUp, .pending] := hanswers ▸ List.mem_map_of_mem he
    simp [hevent] at hmem
  refine ⟨hroom, hunseen, hend, ?_⟩
  have hfires := (deadline_is_never_early Bench.start hroom (.ofParts 0 1500000)).2.2 waiting
    (by simp [waiting, Action.isPatient]) hunseen
  exact (hfires.2 .wait .expired (congrArg Prod.fst hend)).2.2 (by simp [waiting, Action.isWait])

end BoundedTls.Time.Timer
