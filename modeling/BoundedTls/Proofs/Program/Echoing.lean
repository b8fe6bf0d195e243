import BoundedTls.Program.Echo

/-!
# An echo keeps up with what it reads

An echo is followed along everything that can happen to its stream, with the bytes that it has read
and those that it has written. What it still has to write is exactly what it lacks, so it never
writes a byte that it has not read, and it has written everything whenever it reads again.
-/

namespace BoundedTls.Program

open BoundedTls.Network

/-- An echo with the bytes that were read and written so far. -/
structure Echoing where
  echo : Echo := .reading
  read : List UInt8 := []
  written : List UInt8 := []

namespace Echo

/-- The bytes that an event brings to an echo. -/
def brings : Echo → Event → List UInt8
  | .reading, .found (.bytes data) => data
  | _, _ => []

/-- The bytes that an event takes from an echo. -/
def yields : Echo → Event → List UInt8
  | .writing rest, .took n => rest.take n
  | _, _ => []

/-- The bytes that were read and not written yet. -/
def unsent : Echo → List UInt8
  | .writing rest => rest
  | _ => []

def isOver : Echo → Bool
  | .reading | .writing _ => false
  | .ended | .readFailed _ | .writeFailed _ => true

/-- An event that ends an echo, and what the echo ends with: the end of the stream, or a fault of a
read or of a write. -/
inductive Ends : Echo → Event → Echo → Prop where
  | farewell : Ends .reading (.found .farewell) .ended
  | nothing : Ends .reading (.found (.bytes [])) .ended
  | lost (fault : Fault) : Ends .reading (.found (.lost fault)) (.readFailed fault)
  | refused (rest : List UInt8) (fault : Fault) :
      Ends (.writing rest) (.refused fault) (.writeFailed fault)
  /-- A stream that takes nothing takes nothing more. -/
  | stuck (rest : List UInt8) : Ends (.writing rest) (.took 0) (.writeFailed (.plain .writeZero))

variable {e : Echo} {event : Event}

theorem step_of_over (h : e.isOver = true) (event : Event) : e.step event = e := by
  cases e with
  | reading | writing => cases h
  | ended | readFailed | writeFailed => rfl

/-- The stream has taken something. -/
theorem step_took {n : Nat} (h : 0 < n) (rest : List UInt8) :
    (writing rest).step (.took n) =
      if rest.drop n = [] then .reading else .writing (rest.drop n) := by
  simp only [step, restOf, if_neg (Nat.ne_of_gt h)]
  split
  · rename_i hnone
    rw [if_pos (Except.ok.inj hnone)]
  · rename_i left hleft hok
    cases Except.ok.inj hok
    rw [if_neg hleft]
  · rename_i herror
    cases herror

theorem step_took_unsent {n : Nat} (h : 0 < n) (rest : List UInt8) :
    ((writing rest).step (.took n)).unsent = rest.drop n := by
  rw [step_took h]
  split
  · rename_i hnone
    exact hnone.symm
  · rfl

theorem step_found {data : List UInt8} (h : data ≠ []) :
    reading.step (.found (.bytes data)) = .writing data := by
  cases data with
  | nil => exact absurd rfl h
  | cons b data => rfl

/-- **Nothing else ends an echo.** -/
theorem isOver_step_iff (h : e.isOver = false) :
    (e.step event).isOver = true ↔ Ends e event (e.step event) := by
  constructor
  · intro hover
    cases e with
    | ended | readFailed | writeFailed => cases h
    | reading =>
      cases event with
      | took | refused => cases hover
      | found arrival =>
        cases arrival with
        | farewell => exact .farewell
        | lost fault => exact .lost fault
        | pending => cases hover
        | bytes data =>
          cases data with
          | nil => exact .nothing
          | cons => cases hover
    | writing rest =>
      cases event with
      | found => cases hover
      | refused fault => exact .refused rest fault
      | took n =>
        cases n with
        | zero => exact .stuck rest
        | succ n =>
          rw [step_took (Nat.succ_pos n)] at hover
          split at hover <;> cases hover
  · intro hends
    cases hends <;> rfl

end Echo

namespace Echoing

variable {r : Echoing}

def step (r : Echoing) (event : Echo.Event) : Echoing :=
  ⟨r.echo.step event, r.read ++ r.echo.brings event, r.written ++ r.echo.yields event⟩

def run (r : Echoing) (events : List Echo.Event) : Echoing :=
  events.foldl step r

@[simp] theorem run_nil (r : Echoing) : r.run [] = r := rfl

@[simp] theorem run_cons (r : Echoing) (event : Echo.Event) (events : List Echo.Event) :
    r.run (event :: events) = (r.step event).run events := rfl

/-- As long as no write has failed, what was read is what was written and what is still to be
written. -/
structure KeepsUp (r : Echoing) : Prop where
  owes : (∀ fault, r.echo ≠ .writeFailed fault) → r.read = r.written ++ r.echo.unsent
  /-- What was written when a write fails stays written. -/
  behind : r.written <+: r.read

theorem KeepsUp.of_eq (h : r.read = r.written ++ r.echo.unsent) : r.KeepsUp :=
  ⟨fun _ => h, ⟨_, h.symm⟩⟩

/-- **Every event keeps the echo up with what it reads.** -/
theorem keepsUp_step (h : r.KeepsUp) (event : Echo.Event) : (r.step event).KeepsUp := by
  obtain ⟨echo, read, written⟩ := r
  cases echo with
  | ended | readFailed | writeFailed =>
    -- Nothing is read or written after the end.
    simpa [step, Echo.step, Echo.brings, Echo.yields] using h
  | reading =>
    have hread : read = written := by simpa [Echo.unsent] using h.owes (by simp)
    apply KeepsUp.of_eq
    cases event with
    | took | refused => simpa [step, Echo.step, Echo.brings, Echo.yields, Echo.unsent] using hread
    | found arrival =>
      cases arrival with
      | farewell | lost | pending =>
        simpa [step, Echo.step, Echo.hear, Echo.brings, Echo.yields, Echo.unsent] using hread
      | bytes data =>
        cases data with
        | nil => simpa [step, Echo.step, Echo.hear, Echo.brings, Echo.yields, Echo.unsent] using hread
        | cons b data => simp [step, Echo.step, Echo.hear, Echo.brings, Echo.yields, Echo.unsent, hread]
  | writing rest =>
    have hread : read = written ++ rest := h.owes (by simp)
    cases event with
    | found => simpa [step, Echo.step, Echo.brings, Echo.yields] using h
    | refused fault =>
      refine ⟨fun hnot => absurd rfl (hnot fault), ?_⟩
      simpa [step, Echo.brings, Echo.yields] using h.behind
    | took n =>
      cases n with
      | zero =>
        refine ⟨fun hnot => absurd rfl (hnot _), ?_⟩
        simpa [step, Echo.brings, Echo.yields] using h.behind
      | succ n =>
        apply KeepsUp.of_eq
        -- What the stream has taken moves from what is owed to what is written.
        simp only [step, Echo.brings, Echo.yields, Echo.step_took_unsent (Nat.succ_pos n)]
        rw [List.append_nil, List.append_assoc, List.take_append_drop, hread]

theorem keepsUp_run (h : r.KeepsUp) (events : List Echo.Event) : (r.run events).KeepsUp := by
  induction events generalizing r with
  | nil => exact h
  | cons event events ih => exact ih (keepsUp_step h event)

theorem new_keepsUp : ({} : Echoing).KeepsUp :=
  .of_eq rfl

theorem run_of_over (h : r.echo.isOver = true) (events : List Echo.Event) :
    (r.run events).echo = r.echo := by
  induction events generalizing r with
  | nil => rfl
  | cons event events ih =>
    have hsame : (r.step event).echo = r.echo := Echo.step_of_over h event
    rw [run_cons, ih (hsame ▸ h), hsame]

/-- An echo that is over was ended by one event, and everything before it left the echo going. -/
theorem ended_by (h : r.echo.isOver = false) (events : List Echo.Event)
    (hover : (r.run events).echo.isOver = true) :
    ∃ before event after, events = before ++ event :: after ∧
      (r.run before).echo.isOver = false ∧
      Echo.Ends (r.run before).echo event (r.run events).echo := by
  induction events generalizing r with
  | nil => exact absurd (h.symm.trans hover) Bool.false_ne_true
  | cons event events ih =>
    cases hnext : (r.step event).echo.isOver with
    | true =>
      have hlast : (r.run (event :: events)).echo = r.echo.step event := run_of_over hnext events
      refine ⟨[], event, events, rfl, h, ?_⟩
      rw [hlast]
      exact (Echo.isOver_step_iff h).mp hnext
    | false =>
      obtain ⟨before, last, after, rfl, hgoing, hends⟩ := ih hnext hover
      exact ⟨event :: before, last, after, rfl, hgoing, hends⟩

end Echoing

end BoundedTls.Program
