import BoundedTls.Proofs.Listener.Slots
import BoundedTls.Proofs.Program.Conduct

/-!
# Every client is accounted for

However clients arrive, handshakes end, streams go on, accepting fails and tasks end, a slot of the
listener is free, or it is with the loop that accepts, or it is with the task of one client. The
slot of a client comes back when its task ends, and a task ends only when the client was served or
turned away and its connection is shut down.

## Architecture

- **Clients**: the account of a client, how it was introduced and where its slot is
  (`Client.Sound`).
- **Services**: the balance of the slots with the soundness of all clients (`Service.Kept`). Every
  event keeps both.
- **Settling**: what the server owes for each client (`Client.Settles`), and what the end of a task
  gives back (`Service.Releases`).
-/

namespace BoundedTls.Program

open BoundedTls.Address BoundedTls.Time

/-! ## Clients -/

namespace Client

variable {c : Client} {id : Nat}

/-- The slot is with the task of the client, and is given back as the task ends. -/
inductive Slot (id : Nat) (c : Client) : Prop where
  | kept (permit : Permit) :
      c.isAlive = true → c.session.permit = some permit → permit.listener = id → Slot id c
  | returned :
      c.isAlive = false → c.session.permit = none → c.session.standing = .closed → Slot id c

structure Sound (id : Nat) (c : Client) : Prop where
  accounted : c.Accounted
  introduced : ∃ free, Log.Event.accepted c.peer c.handle free ∈ c.log
  slot : c.Slot id

theorem admitted_sound (h : Service.Admitted c) {permit : Permit}
    (hpermit : c.session.permit = some permit) (hown : permit.listener = id) : c.Sound id := by
  obtain ⟨free, hlog⟩ := h.log
  have halive : c.isAlive = true := by rw [isAlive, h.ended, Bool.not_false]
  -- Neither of the two events that were logged is a verdict.
  have hundecided : c.verdicts = [] := by
    show c.log.filter Log.Event.isVerdict = []
    rw [hlog]
    rfl
  exact
    { accounted := .accepted h.standing h.shaped h.ready ⟨hundecided, h.read, h.written⟩
      introduced := ⟨free, by rw [hlog]; exact List.mem_cons_of_mem _ List.mem_cons_self⟩
      slot := .kept permit halive hpermit hown }

/-- **Every event of its session keeps a client sound.** -/
theorem sound_step (h : c.Sound id) (e : Session.Event) : (c.step e).Sound id := by
  obtain ⟨hhandle, hpeer, hpermit⟩ := c.session.step_keeps e
  refine ⟨accounted_step h.accounted e, ?_, ?_⟩
  · obtain ⟨free, hintroduced⟩ := h.introduced
    have hlog : (c.step e).log = c.log ++ (c.session.step e).2.filterMap Effect.told? :=
      List.filterMap_append
    refine ⟨free, ?_⟩
    rw [hlog]
    apply List.mem_append_left
    show Log.Event.accepted (c.session.step e).1.peer (c.session.step e).1.connection.handle free ∈
      c.log
    rw [hpeer, hhandle]
    exact hintroduced
  · cases h.slot with
    | kept permit halive hheld hown => exact .kept permit halive (hpermit.trans hheld) hown
    | returned hended hnone hclosed =>
      -- Nothing happens to a session that is over.
      have hsame : c.step e = c := step_of_misfit (by rw [hclosed]; cases e <;> rfl)
      rw [hsame]
      exact h.slot

theorem sound_finish (h : c.Sound id) (hclosed : c.session.standing = .closed) :
    c.finish.Sound id where
  accounted := by
    obtain ⟨hphase, hdecided⟩ := h.accounted.of_closed hclosed
    exact .closed hclosed hphase (hdecided.same ⟨rfl, rfl, rfl, rfl, rfl⟩)
  introduced := h.introduced
  slot := .returned rfl rfl hclosed

end Client

/-! ## Services -/

namespace Service

variable {limit : Nat} {s s' : Service} {e : Event}

/-- Free slots, the slot of the loop and the tasks alive add up to the limit, and all permits are
the listener's own. -/
structure Kept (limit : Nat) (s : Service) : Prop where
  total : s.listener.available + s.held + s.alive = limit
  own : ∀ permit, s.loop = .granted permit → permit.listener = s.listener.id
  clients : ∀ c ∈ s.clients, c.Sound s.listener.id

/-- What the task of a client gives up the listener gains. -/
theorem Kept.set (h : s.Kept limit) {k : Nat} {c c' : Client} (hk : s.clients[k]? = some c)
    {l : Listener} (hid : l.id = s.listener.id) (hsound : c'.Sound s.listener.id)
    (hmoved : l.available + (if c'.isAlive then 1 else 0) =
      s.listener.available + (if c.isAlive then 1 else 0)) :
    Kept limit { s with listener := l, clients := s.clients.set k c' } where
  total := by
    have hcount := Reception.countP_replace (p := Client.isAlive) hk c'
    have htotal := h.total
    show l.available + s.held + (s.clients.set k c').countP Client.isAlive = limit
    unfold alive at htotal
    omega
  own := by
    intro permit hgranted
    show permit.listener = l.id
    rw [hid]
    exact h.own permit hgranted
  clients := by
    intro other hother
    show other.Sound l.id
    rw [hid]
    rcases List.mem_or_eq_of_mem_set hother with hold | rfl
    · exact h.clients other hold
    · exact hsound

/-- What the loop gives up the listener gains, and the other way round. -/
theorem Kept.turn (h : s.Kept limit) (hclients : s'.clients = s.clients)
    (hid : s'.listener.id = s.listener.id)
    (hmoved : s'.listener.available + s'.held = s.listener.available + s.held)
    (hown : ∀ permit, s'.loop = .granted permit → permit.listener = s.listener.id) :
    s'.Kept limit where
  total := by
    have halive : s'.alive = s.alive := by rw [alive, hclients, alive]
    rw [hmoved, halive]
    exact h.total
  own := by
    rw [hid]
    exact hown
  clients := by
    rw [hclients, hid]
    exact h.clients

theorem kept_finish (h : s.Kept limit) {k : Nat} {c : Client} (hk : s.clients[k]? = some c) :
    (s.finish k c).Kept limit := by
  have hsound := h.clients c (List.mem_of_getElem? hk)
  by_cases hclosed : c.session.standing = .closed
  · rw [finish_of_closed hclosed]
    have hfinished := Client.sound_finish hsound hclosed
    cases hsound.slot with
    | kept permit halive hpermit hown =>
      rw [hpermit, Option.map_some, Option.getD_some, Listener.release_own hown]
      exact h.set hk rfl hfinished (by rw [halive]; rfl)
    | returned hended hnone =>
      -- The slot came back as the task ended, and comes back once only.
      rw [hnone, Option.map_none, Option.getD_none]
      exact h.set hk rfl hfinished (by rw [hended]; rfl)
  · rw [finish_of_busy hclosed]
    exact h

theorem kept_grant (h : s.Kept limit) (hwaiting : s.loop = .waiting) {permit : Permit}
    {l : Listener} (hgrant : s.listener.grant = some (permit, l)) :
    Kept limit { s with listener := l, loop := .granted permit } := by
  obtain ⟨hpermit, hfree, hl⟩ := Listener.grant_eq_some hgrant
  refine h.turn rfl (by rw [hl]) ?_ ?_
  · rw [held_of_waiting hwaiting, hfree]
    rfl
  · intro other hother
    cases hother
    exact hpermit

theorem kept_taken {permit : Permit} (h : s.Kept limit) (hgranted : s.loop = .granted permit)
    {c : Client} (hadmitted : Admitted c) (hpermit : c.session.permit = some permit)
    (backlog : List Waiting) :
    Kept limit
      { s with
        listener := { s.listener with backlog }
        loop := .waiting
        clients := s.clients ++ [c] } where
  total := by
    have htotal := h.total
    rw [held_of_granted hgranted] at htotal
    -- The slot of the loop is the slot of the new client.
    have halive : (s.clients ++ [c]).countP Client.isAlive = s.alive + 1 := by
      have hone : c.isAlive = true := by rw [Client.isAlive, hadmitted.ended, Bool.not_false]
      rw [List.countP_append, List.countP_singleton, if_pos hone]
      rfl
    show s.listener.available + 0 + (s.clients ++ [c]).countP Client.isAlive = limit
    omega
  own := by
    intro other hother
    cases hother
  clients := by
    intro other hother
    rcases List.mem_append.mp hother with hold | hnew
    · exact h.clients other hold
    · rw [List.mem_singleton.mp hnew]
      exact Client.admitted_sound hadmitted hpermit (h.own permit hgranted)

/-- **A call to accept keeps the balance**, whatever becomes of it. -/
theorem Receives.kept {permit : Permit} (h : s.Kept limit) (hgranted : s.loop = .granted permit)
    (hreceives : s.Receives permit s') : s'.Kept limit := by
  cases hreceives with
  | nobody => exact h
  | taken _ hadmitted _ hpermit => exact kept_taken h hgranted hadmitted hpermit _
  | failed hfails =>
    obtain ⟨hclients, hloop, hid, hfree, -⟩ := hfails
    refine h.turn hclients hid ?_ ?_
    · rw [held_of_waiting hloop, held_of_granted hgranted, hfree]
    · intro other hother
      cases hloop.symm.trans hother

/-- An interrupted loop gives back the slot that it holds. -/
theorem Kept.stop (h : s.Kept limit) (hstopped : s'.loop = .stopped)
    (hclients : s'.clients = s.clients) (hid : s'.listener.id = s.listener.id)
    (hfree : s'.listener.available = s.listener.available + s.held) : s'.Kept limit := by
  refine h.turn hclients hid ?_ ?_
  · rw [hfree, held_of_stopped hstopped, Nat.add_zero]
  · intro permit hother
    cases hstopped.symm.trans hother

/-- **Every event keeps the accounts.** -/
theorem kept_step (h : s.Kept limit) (hstep : Step s e s') : s'.Kept limit := by
  cases hstep with
  | idle => exact h
  | arrive w => exact h.turn rfl rfl rfl h.own
  | grant hwaiting hgrant => exact kept_grant h hwaiting hgrant
  | receive now handle hgranted =>
    exact (receives (h.own _ hgranted) now handle).kept h hgranted
  | refuse fault hgranted =>
    exact (Receives.failed (refuse_fails (h.own _ hgranted) fault)).kept h hgranted
  | stop hwaiting =>
    refine h.stop rfl rfl rfl ?_
    rw [held_of_waiting hwaiting]
    rfl
  | drop hgranted =>
    rw [Listener.release_own (h.own _ hgranted)]
    refine h.stop rfl rfl rfl ?_
    rw [held_of_granted hgranted]
  | session e hk =>
    exact h.set hk rfl (Client.sound_step (h.clients _ (List.mem_of_getElem? hk)) e) rfl
  | finish hk => exact kept_finish h hk

theorem kept_run (h : s.Kept limit) (events : List Event) : (s.run events).Kept limit := by
  induction events generalizing s with
  | nil => exact h
  | cons e events ih => exact ih (kept_step h (step_is_step s e))

/-! ## The loop -/

/-- Whatever a call to accept comes to, the loop goes on. -/
theorem answered_loop (h : s.loop ≠ .stopped)
    (answer : Listener.Accepted × Listener × List Effect) :
    (s.answered answer).loop ≠ .stopped := by
  unfold answered
  split
  · exact h
  -- A client that was taken in and a failure both lead back to waiting.
  · exact Loop.noConfusion
  · exact Loop.noConfusion

/-- The end of a task leaves the loop alone. -/
theorem finish_loop (s : Service) (k : Nat) (c : Client) : (s.finish k c).loop = s.loop := by
  by_cases hclosed : c.session.standing = .closed
  · rw [finish_of_closed hclosed]
  · rw [finish_of_busy hclosed]

/-- Nothing but an interrupt ends the loop. -/
theorem stopped_step_iff (hstep : Step s e s') :
    s'.loop = .stopped ↔ s.loop = .stopped ∨ e = .interrupt := by
  cases hstep with
  | idle hstopped =>
    constructor
    · exact Or.inl
    · intro h
      exact h.elim id hstopped
  -- What happens to clients leaves the loop alone.
  | arrive | session => simp
  | finish => simp [finish_loop]
  | stop | drop => simp
  | grant hwaiting => simp [hwaiting]
  | receive now handle hgranted | refuse fault hgranted =>
    simp [answered_loop (s := s), hgranted]

theorem stopped_run_iff (s : Service) (events : List Event) :
    (s.run events).loop = .stopped ↔ s.loop = .stopped ∨ .interrupt ∈ events := by
  -- By induction on the events, from any state: the first one that interrupts stops the loop.
  induction events generalizing s with
  | nil => simp
  | cons e events ih =>
    rw [run_cons, ih, stopped_step_iff (step_is_step s e), List.mem_cons, or_assoc, eq_comm (a := e)]

end Service

/-! ## Every server -/

/-- What the server owes for a client that it has taken in. -/
structure Client.Settles (c : Client) : Prop where
  introduced : ∃ free, Log.Event.accepted c.peer c.handle free ∈ c.log
  verdict : c.Undecided ∨ c.Served ∨ c.TurnedAway
  /-- A handshake is decided by the first look after its task has ended or its deadline has
  passed. -/
  secured : ∀ task, c.session.standing = .securing task →
    ∃ deadline, c.session.connection.timer = some ⟨deadline, .armed⟩ ∧
      ∀ now ended timerFirst, ended.isSome = true ∨ roundUp deadline ≤ now →
        (c.step (.look now ended timerFirst)).Served ∨
          (c.step (.look now ended timerFirst)).TurnedAway
  /-- Only a client that was secured is echoed, and it gets back exactly what it sends. -/
  echoed : ∀ stream echo, c.session.standing = .echoing stream echo →
    c.Served ∧ Echoing.KeepsUp ⟨echo, c.read, c.written⟩
  alive : c.isAlive = true → c.session.permit.isSome = true
  ended : c.isAlive = false →
    c.session.connection.phase = .shutdown ∧ (c.Served ∨ c.TurnedAway) ∧ c.session.permit = none

/-- What the end of the task of a client does to the slots. -/
structure Service.Releases (s : Service) (k : Nat) (c : Client) : Prop where
  /-- A task with something left to do does not end. -/
  busy : c.session.standing ≠ .closed → s.step (.finish k) = s
  closed : c.isAlive = true → c.session.standing = .closed →
    (s.step (.finish k)).listener.available = s.listener.available + 1 ∧
      (s.step (.finish k)).clients[k]? = some c.finish

/-- The accounts of a server that takes in at most so many clients at a time. -/
structure Service.Accounts (limit : Nat) (s : Service) : Prop where
  bounded : s.alive ≤ limit
  /-- A slot is free, with the loop or with a task. -/
  balanced : s.listener.available + s.held + s.alive = limit
  settles : ∀ c ∈ s.clients, c.Settles
  releases : ∀ k c, s.clients[k]? = some c → s.Releases k c
  /-- A call to accept that fails gives its slot back, and the loop goes on. -/
  receives : ∀ permit, s.loop = .granted permit →
    ∀ now handle, s.Receives permit (s.step (.receive now handle))
  refuses : ∀ permit, s.loop = .granted permit → ∀ fault, s.AcceptFails (s.step (.refuse fault))

theorem Client.Accounted.verdict {c : Client} (h : c.Accounted) :
    c.Undecided ∨ c.Served ∨ c.TurnedAway := by
  cases h with
  | accepted _ _ _ hundecided | securing _ _ _ _ hundecided => exact Or.inl hundecided
  | echoing _ _ _ hserved => exact Or.inr (Or.inl hserved)
  | leaving _ hdecided | parting _ _ hdecided | closed _ _ hdecided => exact Or.inr hdecided

theorem Client.Sound.settles {c : Client} {id : Nat} (h : c.Sound id) : c.Settles where
  introduced := h.introduced
  verdict := h.accounted.verdict
  secured := fun _ hstanding => h.accounted.look_decides hstanding
  echoed := by
    intro stream echo hstanding
    cases h.accounted with
    | echoing _ _ hsame hserved hkeepsUp =>
      cases hstanding.symm.trans hsame
      exact ⟨hserved, hkeepsUp⟩
    | accepted hother | securing _ hother | leaving hother | parting _ hother | closed hother =>
      cases hstanding.symm.trans hother
  alive := by
    intro halive
    cases h.slot with
    | kept permit _ hpermit =>
      rw [hpermit]
      rfl
    | returned hended =>
      rw [halive] at hended
      cases hended
  ended := by
    intro hended
    cases h.slot with
    -- A task that keeps its slot has not ended.
    | kept permit halive =>
      rw [hended] at halive
      cases halive
    | returned _ hnone hclosed =>
      obtain ⟨hphase, hdecided⟩ := h.accounted.of_closed hclosed
      exact ⟨hphase, hdecided, hnone⟩

namespace Service

variable {limit : Nat} {s : Service}

theorem Kept.releases (h : s.Kept limit) {k : Nat} {c : Client} (hk : s.clients[k]? = some c) :
    s.Releases k c where
  busy := by
    intro hbusy
    rw [step_finish hk, finish_of_busy hbusy]
  closed := by
    intro halive hclosed
    rw [step_finish hk, finish_of_closed hclosed]
    cases (h.clients c (List.mem_of_getElem? hk)).slot with
    | kept permit _ hpermit hown =>
      rw [hpermit, Option.map_some, Option.getD_some, Listener.release_own hown]
      exact ⟨rfl, List.getElem?_set_self (List.getElem?_eq_some_iff.mp hk).1⟩
    | returned hended =>
      -- A task that is alive has not given its slot back.
      rw [halive] at hended
      cases hended

theorem Kept.accounts (h : s.Kept limit) : s.Accounts limit where
  bounded := by
    have htotal := h.total
    omega
  balanced := h.total
  settles := fun c hc => (h.clients c hc).settles
  releases := fun _ _ hk => h.releases hk
  receives := by
    intro permit hgranted now handle
    rw [step_receive hgranted]
    exact Service.receives (h.own permit hgranted) now handle
  refuses := by
    intro permit hgranted fault
    rw [step_refuse hgranted]
    exact refuse_fails (h.own permit hgranted) fault

/-- A server starts with all its slots free. -/
theorem bound_kept {id : Nat} {host : SocketAddress → Except Fault SocketAddress}
    {settings : Config.ListenerSettings} {endpoint : Endpoint} {l : Listener}
    {effects : List Effect}
    (h : Listener.bind id host settings endpoint = .listening l effects) :
    Kept settings.maxConnections.toNat { listener := l } where
  total := (Reception.bind_balanced h).total
  own := by
    intro permit hgranted
    cases hgranted
  clients := by
    intro c hc
    cases hc

/-- **Every client is accounted for.** However clients arrive, handshakes end, streams go on,
accepting fails and tasks end on a bound listener: the slots that are free, with the loop and with a
task add up to the limit, so no more tasks are alive than it allows. Every client was secured and is
echoed, without a warning; or it was turned away with one warning, and nothing was read or written;
or its handshake is not over yet, but will be. Its task keeps the slot as long as it is alive, and
has ended only where the connection is shut down. A call to accept that fails gives its slot back,
and nothing but an interrupt ends the loop. -/
theorem every_client_is_accounted_for {id : Nat} {host : SocketAddress → Except Fault SocketAddress}
    {settings : Config.ListenerSettings} {endpoint : Endpoint} {l : Listener}
    {effects : List Effect}
    (hbound : Listener.bind id host settings endpoint = .listening l effects)
    (events : List Event) :
    let s := (Service.mk l .waiting [] []).run events
    s.Accounts settings.maxConnections.toNat ∧ (s.loop = .stopped ↔ .interrupt ∈ events) := by
  intro s
  have hkept : s.Kept settings.maxConnections.toNat := kept_run (bound_kept hbound) events
  have hstopped : s.loop = .stopped ↔ .interrupt ∈ events := by
    rw [stopped_run_iff]
    exact or_iff_right Loop.noConfusion
  exact ⟨hkept.accounts, hstopped⟩

/-- Two slots: one client is echoed and leaves, one is turned away at its deadline, and a call to
accept fails. -/
theorem every_client_is_accounted_for_of_two :
    let settings : Config.ListenerSettings := { bindAddress := "127.0.0.1:0", maxConnections := 2 }
    let endpoint : Endpoint :=
      { provider := some ⟨fun _ => some { server := some { chain := [] } }, false⟩ }
    let l : Listener := ⟨0, ⟨localhost, 40000, 0⟩, endpoint, 2, 2, []⟩
    let events : List Event :=
      [.arrive ⟨⟨0⟩, ⟨localhost, 50000, 0⟩⟩, .grant, .receive 0 ⟨1⟩,
        .arrive ⟨⟨1⟩, ⟨localhost, 50001, 0⟩⟩, .grant, .receive 0 ⟨2⟩,
        .session 0 (.begin 0), .session 1 (.begin 0),
        .session 0 (.look 0 (some (.secured ⟨0⟩)) false),
        .session 0 (.stream (.found (.bytes [104, 105]))), .session 0 (.stream (.took 2)),
        .session 1 (.look 5000000000 none false),
        .session 0 (.stream (.found .farewell)), .session 0 (.leave false),
        .session 0 (.farewell (.ok ())), .finish 0,
        .grant, .refuse (.number ErrorNumber.brokenPipe)]
    let s := (Service.mk l .waiting [] []).run events
    Listener.bind 0 (fun _ => .ok l.address) settings endpoint =
        .listening l [.log (.bound ⟨localhost, 40000, 0⟩ 2 5000)] ∧
      s.clients.map Client.written = [[104, 105], []] ∧
      s.clients.map Client.verdicts =
        [[.handshakeComplete ⟨1⟩],
          [.refused ⟨2⟩ ⟨localhost, 50001, 0⟩ (.timeout defaultTimeout)]] ∧
      s.Accounts 2 ∧ (s.loop = .stopped ↔ .interrupt ∈ events) := by
  have hbound : Listener.bind 0 (fun _ => .ok ⟨localhost, 40000, 0⟩)
      { bindAddress := "127.0.0.1:0", maxConnections := 2 }
      { provider := some ⟨fun _ => some { server := some { chain := [] } }, false⟩ } =
        .listening ⟨0, ⟨localhost, 40000, 0⟩,
          { provider := some ⟨fun _ => some { server := some { chain := [] } }, false⟩ }, 2, 2, []⟩
        [.log (.bound ⟨localhost, 40000, 0⟩ 2 5000)] :=
    rfl
  exact ⟨hbound, rfl, rfl, every_client_is_accounted_for hbound _⟩

end Service

end BoundedTls.Program
