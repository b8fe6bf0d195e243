import BoundedTls.Proofs.Network.Progress

/-!
# Configured tasks

A handshake task takes its configuration along as it starts, and a task without one fails at once.
A task that was given a configuration never ends that way, whatever its peer sends it, whatever
becomes of its stream, and whichever other tasks of the host come, run and leave.
-/

namespace BoundedTls

open BoundedTls.Tls

/-- The side has the configuration that its part needs. -/
def Side.isConfigured : Side → Bool
  | accept config => config.isSome
  | connect config => config.isSome

namespace RunningTask

/-- The task has a configuration, and has not ended for want of one. -/
structure Configured (t : RunningTask) : Prop where
  side : t.task.side.isConfigured = true
  progress : ∀ what, t.progress ≠ .ended (unconfigured what)

variable {t t' : RunningTask}

/-- A station at which a task wants for its configuration is never reached with one. -/
theorem Configured.of_leads (h : t.Configured) (hleads : t.Leads t') : t'.Configured := by
  obtain ⟨htask, hprogress⟩ := hleads
  refine ⟨htask ▸ h.side, ?_⟩
  have hside := h.side
  generalize t'.progress = p at hprogress
  induction hprogress with
  | refl => exact h.progress
  | tail _ hnext _ =>
    intro what
    cases hnext with
    | unserved hnone | unapproached hnone => simp [hnone, Side.isConfigured] at hside
    | fail p _ hother => exact fun hended => hother what (Progress.ended.inj hended)
    | serve | approach | answer | approve | succeed => simp [unconfigured]

/-- **A configured task stays configured** as it runs. -/
theorem Configured.run (h : t.Configured) (n : Network) : (t.run n).1.Configured :=
  h.of_leads (t.run_leads n)

end RunningTask

/-! ## Rounds -/

/-- A round runs some of the tasks and leaves the others. -/
theorem runRound_configured {tasks : List RunningTask} (h : ∀ t ∈ tasks, t.Configured)
    (n : Network) : ∀ t ∈ (runRound tasks n).1, t.Configured := by
  unfold runRound
  -- What is done so far stays configured, task by task.
  refine List.foldlRecOn
    (motive := fun done : List RunningTask × Network => ∀ t ∈ done.1, t.Configured)
    _ _ (by simp) ?_
  intro done hdone entry hentry
  obtain ⟨task, htask, rfl⟩ := List.mem_map.mp hentry
  have hone {t : RunningTask} (ht : t.Configured) : ∀ t' ∈ done.1 ++ [t], t'.Configured := by
    intro t' ht'
    rcases List.mem_append.mp ht' with hold | hnew
    · exact hdone t' hold
    · rw [List.mem_singleton.mp hnew]
      exact ht
  simp only
  split
  · exact hone ((h task htask).run _)
  · exact hone (h task htask)

theorem runRounds_configured (stop : List RunningTask → Bool) (bound : Nat)
    {tasks : List RunningTask} (h : ∀ t ∈ tasks, t.Configured) (n : Network) :
    ∀ t ∈ (runRounds stop bound tasks n).1, t.Configured := by
  induction bound generalizing tasks n with
  | zero => exact h
  | succ bound ih =>
    unfold runRounds
    split
    · exact h
    · exact ih (runRound_configured h n) _

theorem runTasks_configured (stop : List RunningTask → Bool) {tasks : List RunningTask}
    (h : ∀ t ∈ tasks, t.Configured) (n : Network) :
    ∀ t ∈ (runTasks stop tasks n).1, t.Configured :=
  runRounds_configured stop _ h n

/-! ## Histories -/

/-- What happens to the tasks of a host. -/
inductive Occasion where
  | started (task : HandshakeTask)
  /-- The task of the stream is called off, or has handed over its result. -/
  | left (stream : StreamId)
  /-- The tasks run, on a network that may have changed since they ran last. -/
  | run (stop : List RunningTask → Bool) (network : Network)

/-- The tasks of a host after an occasion. -/
def attend (tasks : List RunningTask) : Occasion → List RunningTask
  | .started task => tasks ++ [{ task := task }]
  | .left stream => tasks.filter fun t => t.task.stream != stream
  | .run stop network => (runTasks stop tasks network).1

theorem attend_configured {tasks : List RunningTask} (h : ∀ t ∈ tasks, t.Configured) {o : Occasion}
    (hstarted : ∀ task, o = .started task → task.side.isConfigured = true) :
    ∀ t ∈ attend tasks o, t.Configured := by
  intro t ht
  cases o with
  | started task =>
    rcases List.mem_append.mp ht with hold | hnew
    · exact h t hold
    · -- A task that has not run yet has no result.
      rw [List.mem_singleton.mp hnew]
      exact ⟨hstarted task rfl, by simp⟩
  | left stream => exact h t (List.mem_filter.mp ht).1
  | run stop network => exact runTasks_configured stop h network t ht

/-- **Tasks that were given their configuration never end for want of one**, however often they run
and whichever tasks come and go. -/
theorem attendAll_configured {tasks : List RunningTask} (h : ∀ t ∈ tasks, t.Configured)
    {history : List Occasion}
    (hstarted : ∀ task, .started task ∈ history → task.side.isConfigured = true) :
    ∀ t ∈ history.foldl attend tasks, t.Configured := by
  -- Every occasion makes another list of tasks.
  induction history generalizing tasks with
  | nil => exact h
  | cons o history ih =>
    rw [List.foldl_cons]
    apply ih
    · apply attend_configured h
      rintro task rfl
      exact hstarted task List.mem_cons_self
    · intro task hlater
      exact hstarted task (List.mem_cons_of_mem _ hlater)

end BoundedTls
