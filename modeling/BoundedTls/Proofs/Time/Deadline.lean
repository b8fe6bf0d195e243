import BoundedTls.Time.Timer

/-!
# Deadlines

Where the deadline of a timeout lies, and when it fires. The clock has a last instant, and a timeout
that ends after it is cut down to thirty years. A deadline fires on a whole millisecond: never early,
and less than a millisecond late.
-/

namespace BoundedTls.Time

/-! ## Where a deadline lies -/

/-- The nanoseconds that a timeout leaves from `start` on: thirty years where the clock cannot
hold its end. -/
def allowance (start : Instant) (d : Duration) : Nat :=
  if start + d.total ≤ clockEnd then d.total else farFuture.total

theorem deadlineAfter_eq (start : Instant) (d : Duration) :
    deadlineAfter start d = start + allowance start d := by
  unfold deadlineAfter later? allowance
  by_cases hheld : start + d.total ≤ clockEnd
  · rw [if_pos hheld, if_pos hheld, Option.getD_some]
  · rw [if_neg hheld, if_neg hheld, Option.getD_none]

/-- The deadline of a timeout that starts `now`. -/
structure Placed (now : Instant) (d : Duration) (deadline : Instant) : Prop where
  exact : now + d.total ≤ clockEnd → deadline = now + d.total
  cut : clockEnd < now + d.total → deadline = now + 946080000 * nanosPerSecond
  /-- No sum is beyond the last instant. -/
  held : deadline ≤ clockEnd
  enough : now + min d.total (946080000 * nanosPerSecond) ≤ deadline

/-- A clock that holds thirty years from now holds every deadline. -/
theorem placed_deadlineAfter {now : Instant} (hroom : now + farFuture.total ≤ clockEnd)
    (d : Duration) : Placed now d (deadlineAfter now d) := by
  have hfar : farFuture.total = 946080000 * nanosPerSecond := rfl
  rw [deadlineAfter_eq]
  unfold allowance
  by_cases hheld : now + d.total ≤ clockEnd
  · rw [if_pos hheld]
    refine ⟨fun _ => rfl, fun hbeyond => ?_, hheld, ?_⟩
    · exact absurd hheld (Nat.not_le_of_lt hbeyond)
    · apply Nat.add_le_add_left
      exact Nat.min_le_left _ _
  · rw [if_neg hheld]
    refine ⟨fun hfits => absurd hfits hheld, fun _ => by rw [hfar], hroom, ?_⟩
    apply Nat.add_le_add_left
    rw [hfar]
    exact Nat.min_le_right _ _

/-- A deadline does not lie before the start of its timeout. -/
theorem le_deadlineAfter (start : Instant) (d : Duration) : start ≤ deadlineAfter start d := by
  rw [deadlineAfter_eq]
  exact Nat.le_add_right _ _

/-! ## When a deadline fires -/

/-- The first whole millisecond that is not before the deadline. -/
structure FiresAt (deadline t : Instant) : Prop where
  whole : nanosPerMilli ∣ t
  due : deadline ≤ t
  soon : t < deadline + nanosPerMilli

/-- Deadlines never fire early. -/
theorem le_roundUp (t : Instant) : t ≤ roundUp t := by
  have hceil (n : Nat) : n ≤ (n + (1000000 - 1)) / 1000000 * 1000000 := by omega
  unfold roundUp nanosPerMilli
  exact hceil t

theorem roundUp_lt (t : Instant) : roundUp t < t + nanosPerMilli := by
  have hceil (n : Nat) : (n + (1000000 - 1)) / 1000000 * 1000000 < n + 1000000 := by omega
  unfold roundUp nanosPerMilli
  exact hceil t

theorem firesAt_roundUp (t : Instant) : FiresAt t (roundUp t) where
  whole := Nat.dvd_mul_left _ _
  due := le_roundUp t
  soon := roundUp_lt t

/-- A look at a timer that counts down. -/
theorem Timer.poll_armed (deadline now : Instant) :
    Timer.poll ⟨deadline, .armed⟩ now =
      if roundUp deadline ≤ now then (some .expired, ⟨deadline, .expired⟩)
      else (none, ⟨deadline, .armed⟩) := by
  unfold Timer.poll
  simp only

end BoundedTls.Time
