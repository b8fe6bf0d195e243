import BoundedTls.World.Basic

/-!
# Options of streams

Whether small packets are sent at once is an option of each end of a stream. Reading, writing and
closing leave it as it is, and so do the handshake tasks, whatever they read: on the whole host it
is set where a preparer sets it or an owner does, and nowhere else. A stream that is new has it off.
-/

namespace BoundedTls

open BoundedTls.Tls

namespace Network

/-- The options of all ends. -/
def options (n : Network) : List Bool :=
  n.ends.map StreamEnd.nodelay

/-- Small packets of the stream are sent at once, if there is such a stream. -/
def nodelay? (n : Network) (s : StreamId) : Option Bool :=
  n.options[s.index]?

variable (n : Network) (s : StreamId)

theorem modify_options {change : StreamEnd → StreamEnd}
    (h : ∀ e, (change e).nodelay = e.nodelay) : (n.modify s change).options = n.options := by
  apply List.ext_getElem?
  intro i
  simp only [options, modify, List.getElem?_map, List.getElem?_modify]
  cases n.ends[i]? with
  | none => rfl
  | some e =>
    by_cases hi : s.index = i
    · simp [hi, h]
    · simp [hi]

theorem nodelay?_eq_map : n.nodelay? s = (n.find? s).map StreamEnd.nodelay := by
  rw [nodelay?, options, List.getElem?_map, find?]

/-- The option of a stream that is there is set, and no other. -/
theorem setNodelay_nodelay? (s t : StreamId) (on : Bool) :
    (n.setNodelay s on).2.nodelay? t =
      if s.index = t.index then (n.nodelay? t).map fun _ => on else n.nodelay? t := by
  unfold setNodelay
  split
  · rename_i hmissing
    split
    · rename_i hsame
      have hnone : n.nodelay? t = none := by
        rw [nodelay?_eq_map, find?, ← hsame]
        exact congrArg _ hmissing
      rw [hnone, Option.map_none]
    · rfl
  · simp only [nodelay?, options, modify, List.getElem?_map, List.getElem?_modify]
    cases n.ends[t.index]? with
    | none => simp
    | some e => by_cases hs : s.index = t.index <;> simp [hs]

/-- The host refuses to set an option only where there is no stream. -/
theorem setNodelay_of_missing (hmissing : n.nodelay? s = none) (on : Bool) :
    n.setNodelay s on = (.error (.number ErrorNumber.badDescriptor), n) := by
  have hnone : n.find? s = none := by simpa [nodelay?_eq_map] using hmissing
  rw [setNodelay, hnone]

/-- A new stream leaves the others as they are. -/
theorem connect_options : n.connect.2.2.options = n.options ++ [false, false] := by
  simp [options, connect]

@[simp] theorem write_options (packet : Packet) : (n.write s packet).2.options = n.options := by
  unfold write
  split
  · rfl
  · split
    · rfl
    · split
      · exact modify_options _ _ fun _ => rfl
      · exact modify_options _ _ fun _ => rfl

@[simp] theorem finish_options : (n.finish s).options = n.options := by
  unfold finish
  split
  · rfl
  · exact modify_options _ _ fun _ => rfl

@[simp] theorem close_options : (n.close s).options = n.options := by
  unfold close
  split
  · rfl
  · split
    · rfl
    · simp only
      rw [modify_options, modify_options]
      · exact fun _ => rfl
      · intro e
        split <;> rfl

@[simp] theorem drain_options : (n.drain s).2.options = n.options := by
  unfold drain
  split
  · rfl
  · exact modify_options _ _ fun _ => rfl

/-- Messages that arrive are taken without touching the option. -/
theorem absorb_nodelay (e : StreamEnd) (packets : List Packet) :
    (absorb e packets).nodelay = e.nodelay := by
  unfold absorb
  induction packets generalizing e with
  | nil => rfl
  | cons packet packets ih =>
    rw [List.foldl_cons, ih]
    split <;> rfl

@[simp] theorem receive_options (limit : Nat) : (n.receive s limit).2.options = n.options := by
  have hread : (n.modify s fun e =>
      if e.plaintext.isEmpty then { absorb e e.inbox with inbox := [] } else e).options =
        n.options := by
    apply modify_options
    intro e
    split
    · exact absorb_nodelay e e.inbox
    · rfl
  unfold receive
  simp only
  split
  · exact hread
  · split
    · refine Eq.trans ?_ hread
      exact modify_options _ _ fun _ => rfl
    · -- Whatever else is found, nothing is taken.
      split
      · exact hread
      · split
        · exact hread
        · split <;> exact hread

end Network

/-! ## Tasks -/

namespace RunningTask

variable (t : RunningTask) (n : Network)

@[simp] theorem fail_options (result : TaskResult) : (t.fail n result).2.options = n.options :=
  n.close_options t.task.stream

@[simp] theorem refuse_options (failure : Failure) (alert : Option Alert) :
    (t.refuse n failure alert).2.options = n.options := by
  cases alert <;> simp [refuse]

@[simp] theorem send_options (message : Message) : (t.send n message).options = n.options :=
  n.write_options ..

@[simp] theorem succeed_options : (t.succeed n).2.options = n.options := rfl

@[simp] theorem judge_options (config : ClientConfig) (name : Address.ServerName)
    (version : Version) (chain : List Certificate) :
    (t.judge n config name version chain).2.options = n.options := by
  unfold judge
  extract_lets sent accept
  have haccept : accept.2.options = n.options := by
    cases version <;> simp [accept, sent]
  cases config.verifier with
  | panics => simp
  | acceptsAny => exact haccept
  | anchors trusted =>
    simp only
    split
    · exact haccept
    · simp

@[simp] theorem answer_options (config : ServerConfig) (offered : Versions) :
    (t.answer n config offered).2.options = n.options := by
  unfold answer
  split <;> simp

@[simp] theorem takeBytes_options (data : List UInt8) :
    (t.takeBytes n data).2.options = n.options := by
  unfold takeBytes
  simp only
  split <;> simp

@[simp] theorem takeMessage_options (message : Message) :
    (t.takeMessage n message).2.options = n.options := by
  unfold takeMessage
  split
  · simp
  · simp
  · simp
  · split <;> simp
  · simp
  · exact Network.modify_options _ _ fun e => Network.absorb_nodelay e _
  · rfl
  · simp
  · rfl

@[simp] theorem take_options (packet : Packet) : (t.take n packet).2.options = n.options := by
  cases packet with
  | bytes data =>
    simp only [take]
    split
    · rfl
    · simp
  | message message => exact t.takeMessage_options n message

@[simp] theorem takeAll_options (packets : List Packet) :
    (t.takeAll n packets).2.options = n.options := by
  -- Every packet changes the task and the network.
  induction packets generalizing t n with
  | nil => rfl
  | cons packet packets ih =>
    calc (t.takeAll n (packet :: packets)).2.options
        = ((t.take n packet).1.takeAll (t.take n packet).2 packets).2.options := rfl
      _ = (t.take n packet).2.options := ih _ _
      _ = n.options := t.take_options n packet

@[simp] theorem read_options : (t.read n).2.options = n.options := by
  have htaken : (t.takeAll (n.drain t.task.stream).2 (n.drain t.task.stream).1).2.options =
      n.options := by
    simp
  unfold read
  simp only
  generalize t.takeAll (n.drain t.task.stream).2 (n.drain t.task.stream).1 = taken at *
  split
  · exact htaken
  · split
    · simpa using htaken
    · split
      · simpa using htaken
      · exact htaken
  · exact htaken

/-- **A handshake leaves the options alone.** -/
@[simp] theorem run_options : (t.run n).2.options = n.options := by
  unfold run
  split <;> simp

end RunningTask

/-! ## Rounds -/

theorem runRound_options (tasks : List RunningTask) (n : Network) :
    (runRound tasks n).2.options = n.options := by
  unfold runRound
  refine List.foldlRecOn
    (motive := fun done : List RunningTask × Network => done.2.options = n.options) _ _ rfl ?_
  intro done hdone entry _
  simp only
  split
  · simpa using hdone
  · exact hdone

theorem runTasks_options (stop : List RunningTask → Bool) (tasks : List RunningTask)
    (n : Network) : (runTasks stop tasks n).2.options = n.options := by
  have hrounds (bound : Nat) : (runRounds stop bound tasks n).2.options = n.options := by
    induction bound generalizing tasks n with
    | zero => rfl
    | succ bound ih =>
      unfold runRounds
      split
      · rfl
      · exact (ih _ _).trans (runRound_options tasks n)
  exact hrounds _

/-! ## The host -/

namespace World

@[simp] theorem runUntil_options (w : World) (stop : List RunningTask → Bool) :
    (w.runUntil stop).network.options = w.network.options :=
  runTasks_options stop w.tasks w.network

/-- Of the effects only that of a preparer can set an option. -/
theorem perform_options (w : World) {effect : Effect}
    (h : ∀ handle s preparer, effect = .prepared handle s preparer →
      preparer.setsNodelay = false) :
    (w.perform effect).network.options = w.network.options := by
  cases effect with
  | prepared handle s preparer => simp [perform, h handle s preparer rfl]
  | aborted task => exact Network.close_options ..
  | closed s => exact Network.close_options ..
  | log | asked | armed | spawned | notified => rfl

theorem performAll_options (w : World) {effects : List Effect}
    (h : ∀ handle s preparer, .prepared handle s preparer ∈ effects →
      preparer.setsNodelay = false) :
    (w.performAll effects).network.options = w.network.options := by
  -- Every effect makes another world.
  induction effects generalizing w with
  | nil => rfl
  | cons effect effects ih =>
    have hfirst : (w.perform effect).network.options = w.network.options :=
      w.perform_options fun handle s preparer heq => h handle s preparer (heq ▸ List.mem_cons_self)
    refine Eq.trans (ih _ fun handle s preparer hmem => ?_) hfirst
    exact h handle s preparer (List.mem_cons_of_mem _ hmem)

theorem perform_prepared (w : World) (handle : Handle) (s : StreamId) {preparer : StreamPreparer}
    (h : preparer.setsNodelay = true) :
    (w.perform (.prepared handle s preparer)).network = (w.network.setNodelay s true).2 := by
  simp [perform, h]

/-- A preparer that the host refuses complains, and nothing else comes of it. -/
theorem perform_prepared_of_missing (w : World) (handle : Handle) {s : StreamId}
    {preparer : StreamPreparer} (h : preparer.setsNodelay = true)
    (hmissing : w.network.nodelay? s = none) :
    w.perform (.prepared handle s preparer) =
      { w with
        trace := w.trace ++ [.prepared handle s preparer,
          .log (.nodelayFailed handle (.number ErrorNumber.badDescriptor))] } := by
  simp [perform, h, Network.setNodelay_of_missing _ _ hmissing, StreamPreparer.complaints]

end World

/-! ## What stays on -/

/-- The stream stays there, and its option stays on if it is. -/
structure Network.Keeps (s : StreamId) (n n' : Network) : Prop where
  there : (n.nodelay? s).isSome → (n'.nodelay? s).isSome
  on : n.nodelay? s = some true → n'.nodelay? s = some true

namespace Network.Keeps

variable {s : StreamId} {n n' n'' : Network}

theorem trans (h : Keeps s n n') (h' : Keeps s n' n'') : Keeps s n n'' where
  there := h'.there ∘ h.there
  on := h'.on ∘ h.on

theorem of_options (h : n'.options = n.options) : Keeps s n n' := by
  constructor <;> simp [nodelay?, h]

theorem connect (n : Network) : Keeps s n n.connect.2.2 where
  there := by
    intro hthere
    obtain ⟨on, hon⟩ := Option.isSome_iff_exists.mp hthere
    simp only [nodelay?, connect_options] at hon ⊢
    rw [List.getElem?_append_left (List.getElem?_eq_some_iff.mp hon).1, hon]
    rfl
  on := by
    intro hon
    simp only [nodelay?, connect_options] at hon ⊢
    rw [List.getElem?_append_left (List.getElem?_eq_some_iff.mp hon).1, hon]

/-- Setting an option keeps those of other streams, and what it sets it may set again. -/
theorem setNodelay (n : Network) {t : StreamId} {on : Bool} (h : t = s → on = true) :
    Keeps s n (n.setNodelay t on).2 := by
  by_cases hsame : t.index = s.index
  · have hon : on = true := h (by cases t; cases s; simp_all)
    constructor <;> cases hthere : n.nodelay? s <;> simp [setNodelay_nodelay?, hsame, hthere, hon]
  · constructor <;> simp [setNodelay_nodelay?, hsame]

theorem perform (w : World) (effect : Effect) :
    Keeps s w.network (w.perform effect).network := by
  by_cases hsets : ∃ handle t preparer, effect = .prepared handle t preparer ∧
      preparer.setsNodelay = true
  · obtain ⟨handle, t, preparer, rfl, hon⟩ := hsets
    rw [w.perform_prepared handle t hon]
    exact setNodelay _ fun _ => rfl
  · refine of_options (w.perform_options fun handle t preparer heq => ?_)
    exact Bool.eq_false_iff.mpr fun hon => hsets ⟨handle, t, preparer, heq, hon⟩

theorem performAll (w : World) (effects : List Effect) :
    Keeps s w.network (w.performAll effects).network := by
  induction effects generalizing w with
  | nil => exact of_options rfl
  | cons effect effects ih => exact (perform w effect).trans (ih _)

end Network.Keeps

/-- Where a preparer sets the option of a stream, it is on before anything that comes after. -/
theorem World.prepared_first (w : World) (handle : Handle) {s : StreamId}
    {preparer : StreamPreparer} (hon : preparer.setsNodelay = true)
    (hthere : (w.network.nodelay? s).isSome) (effects : List Effect) :
    (w.performAll (.prepared handle s preparer :: effects)).network.nodelay? s = some true := by
  refine (Network.Keeps.performAll (w.perform (.prepared handle s preparer)) effects).on ?_
  obtain ⟨before, hbefore⟩ := Option.isSome_iff_exists.mp hthere
  simp [w.perform_prepared handle s hon, Network.setNodelay_nodelay?, hbefore]

end BoundedTls
