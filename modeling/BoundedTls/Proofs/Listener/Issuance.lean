import BoundedTls.Proofs.Connection.Handles
import BoundedTls.Proofs.Connection.Stamping
import Mathlib.Data.List.Nodup

/-!
# Generated handles identify connections

Many calls draw handles from one source: some want a handle alone, some make a connection with an
endpoint or without one, and calls to accept and to dial make one of a stream that they have waited
for. Each of them goes its way in steps, other calls may go on between any two of them, and some
fail after they have drawn. Whatever the order, no handle is drawn twice before the words are used
up. So connections are told apart by their handles, as long as their owners leave them alone.

## Architecture

- **Errands**: what a call does with the handle that it draws (`Errand`).
- **Calls**: how far a call has come (`Issuance.Call`), from the request to the answer.
- **Issuance**: the source, the listeners and all calls, with one total step function. An event that
  does not fit its call changes nothing. `Issuance.Step` says case by case what a step can be.
- **Names**: every handle that a call goes by was drawn by that call (`Issuance.Sound`).
-/

namespace BoundedTls

open BoundedTls.Address BoundedTls.Time

/-! ## Errands and calls -/

/-- What a call does with the handle that it draws. -/
inductive Errand where
  /-- Return it. -/
  | handle
  | create
  | equip (endpoint : Endpoint)
  /-- Make an accepted client a connection that holds a slot of a listener. -/
  | welcome (listener : Nat) (permit : Permit) (client : Waiting)
  /-- Make a dialled stream a connection. -/
  | dial (endpoint : Endpoint) (address : SocketAddress) (stream : StreamId)

/-- The life of a connection that came with its stream. -/
def Life.received (c : Connection) (now : Instant) (effects : List Effect) : Life :=
  { connection := c, now, path := [.idle, .ready], trace := effects.map .effect }

namespace Issuance

/-- How far a call has come. -/
inductive Call where
  /-- A call to accept waits for a slot. -/
  | queued (listener : Nat)
  /-- A call to accept holds a slot and waits for a client. -/
  | granted (listener : Nat) (permit : Permit)
  /-- A call to dial waits for its stream. -/
  | dialling (endpoint : Endpoint) (address : SocketAddress)
  /-- Has all that it needs but a handle. -/
  | poised (errand : Errand)
  | drawn (errand : Errand) (handle : Handle)
  /-- Has returned a handle. -/
  | handed (handle : Handle)
  /-- Has returned a connection, which goes on with its own life. -/
  | connected (life : Life)
  | failed (error : ListenerError)
  /-- Dropped while it waited. -/
  | dropped

/-- The call may still draw a handle. -/
def Call.isPending : Call → Bool
  | queued _ | granted _ _ | dialling _ _ | poised _ => true
  | drawn _ _ | handed _ | connected _ | failed _ | dropped => false

/-- The handle that the call, or what it has returned, goes by. -/
def Call.handle? : Call → Option Handle
  | drawn _ handle | handed handle => some handle
  | connected life => some life.connection.handle
  | queued _ | granted _ _ | dialling _ _ | poised _ | failed _ | dropped => none

theorem Call.handle?_of_pending {c : Call} (h : c.isPending = true) : c.handle? = none := by
  cases c with
  | queued | granted | dialling | poised => rfl
  | drawn | handed | connected | failed | dropped => cases h

end Issuance

/-! ## Issuance -/

/-- All that draw handles from one source. Calls and listeners are numbered in their order. -/
structure Issuance where
  source : HandleSource := {}
  /-- The handles drawn so far, each with the call that has drawn it. -/
  generated : List (Nat × Handle) := []
  listeners : List Listener := []
  calls : List Issuance.Call := []

namespace Issuance

inductive Event where
  | listen (l : Listener)
  | arrive (listener : Nat) (client : Waiting)
  /-- A permit of an accepted connection comes back. -/
  | release (listener : Nat) (permit : Permit)
  /-- Ask for a handle alone. -/
  | handle
  /-- Ask for a connection. -/
  | create
  /-- Ask an endpoint for a connection. -/
  | equip (endpoint : Endpoint)
  | accept (listener : Nat)
  | dial (endpoint : Endpoint) (address : SocketAddress)
  | grant (call : Nat)
  /-- A call that holds a slot takes the client that has waited longest. -/
  | take (call : Nat)
  /-- The host has a stream for a call to dial. -/
  | connect (call : Nat) (stream : StreamId)
  /-- A call that waits for a client or for its stream learns that there is none. -/
  | refuse (call : Nat) (fault : Fault)
  | giveUp (call : Nat)
  | draw (call : Nat)
  /-- A call that has drawn its handle does what it drew it for. -/
  | finish (call : Nat) (now : Instant)
  /-- Something is done with the connection that a call has returned. -/
  | move (call : Nat) (m : Move)

/-- The owner of the connection that a call has returned gives it another handle. -/
def Event.Renames (call : Nat) (e : Event) : Prop :=
  ∃ handle, e = .move call (.set (.handle handle))

def ask (p : Issuance) (c : Call) : Issuance :=
  { p with calls := p.calls ++ [c] }

/-- A call has come so far, and the listeners have changed with it. -/
def put (p : Issuance) (listeners : List Listener) (call : Nat) (c : Call) : Issuance :=
  { p with listeners, calls := p.calls.set call c }

/-- A call that waits takes a slot, if one is free. -/
def grant (p : Issuance) (call listener : Nat) (l : Listener) : Issuance :=
  match l.grant with
  | none => p
  | some (permit, l) => p.put (p.listeners.set listener l) call (.granted listener permit)

/-- A call with a slot takes a client, if one waits. -/
def take (p : Issuance) (call listener : Nat) (permit : Permit) (l : Listener) : Issuance :=
  match l.backlog with
  | [] => p
  | client :: backlog =>
    p.put (p.listeners.set listener { l with backlog }) call
      (.poised (.welcome listener permit client))

/-- A slot goes back, and the call that held it ends. -/
def yield (p : Issuance) (call listener : Nat) (permit : Permit) (c : Call) : Issuance :=
  p.put (p.listeners.modify listener fun l => l.release permit) call c

/-- A call draws its handle. -/
def draw (p : Issuance) (call : Nat) (errand : Errand) : Issuance :=
  { p with
    source := p.source.draw.2
    generated := p.generated ++ [(call, p.source.draw.1)]
    calls := p.calls.set call (.drawn errand p.source.draw.1) }

/-- What the answer of a listener makes of a call. -/
def answerOf (now : Instant) : Listener.Accepted → List Effect → Call
  | .connection c _ _, effects => .connected (.received c now effects)
  | .failed e, _ => .failed e
  | .blocked, _ => .dropped

/-- A client is made a connection of its listener. -/
def welcome (p : Issuance) (call listener : Nat) (permit : Permit) (client : Waiting)
    (handle : Handle) (now : Instant) (l : Listener) : Issuance :=
  let (accepted, l, effects) := l.welcome now handle permit client
  p.put (p.listeners.set listener l) call (answerOf now accepted effects)

/-- What becomes of a call to dial that has its stream. -/
def dialledOf (now : Instant) : Except ListenerError Connection × List Effect → Call
  | (.ok c, effects) => .connected (.received c now effects)
  | (.error e, _) => .failed e

/-- A call does what it has drawn its handle for. -/
def finish (p : Issuance) (call : Nat) (errand : Errand) (handle : Handle) (now : Instant) :
    Issuance :=
  match errand with
  | .handle => p.put p.listeners call (.handed handle)
  | .create => p.put p.listeners call (.connected (.new handle now))
  | .equip e => p.put p.listeners call (.connected (.made e handle now))
  | .welcome listener permit client =>
    match p.listeners[listener]? with
    | none => p
    | some l => p.welcome call listener permit client handle now l
  | .dial e address stream =>
    p.put p.listeners call (dialledOf now (e.dialled now handle stream address))

/-- One event. One that does not fit its call changes nothing. -/
def step (p : Issuance) (e : Event) : Issuance :=
  match e with
  | .listen l => { p with listeners := p.listeners ++ [l] }
  | .arrive listener client =>
    { p with listeners := p.listeners.modify listener fun l => l.arrive client }
  | .release listener permit =>
    { p with listeners := p.listeners.modify listener fun l => l.release permit }
  | .handle => p.ask (.poised .handle)
  | .create => p.ask (.poised .create)
  | .equip e => p.ask (.poised (.equip e))
  | .accept listener => p.ask (.queued listener)
  | .dial e address => p.ask (.dialling e address)
  | .grant call =>
    match p.calls[call]? with
    | some (.queued listener) =>
      match p.listeners[listener]? with
      | some l => p.grant call listener l
      | none => p
    | _ => p
  | .take call =>
    match p.calls[call]? with
    | some (.granted listener permit) =>
      match p.listeners[listener]? with
      | some l => p.take call listener permit l
      | none => p
    | _ => p
  | .connect call stream =>
    match p.calls[call]? with
    | some (.dialling e address) => p.put p.listeners call (.poised (.dial e address stream))
    | _ => p
  | .refuse call fault =>
    match p.calls[call]? with
    | some (.granted listener permit) => p.yield call listener permit (.failed (.accept fault))
    | some (.dialling _ _) => p.put p.listeners call (.failed (.connect fault))
    | _ => p
  | .giveUp call =>
    match p.calls[call]? with
    | some (.queued _) | some (.dialling _ _) => p.put p.listeners call .dropped
    | some (.granted listener permit) => p.yield call listener permit .dropped
    | _ => p
  | .draw call =>
    match p.calls[call]? with
    | some (.poised errand) => p.draw call errand
    | _ => p
  | .finish call now =>
    match p.calls[call]? with
    | some (.drawn errand handle) => p.finish call errand handle now
    | _ => p
  | .move call m =>
    match p.calls[call]? with
    | some (.connected l) => p.put p.listeners call (.connected (l.step m))
    | _ => p

def run (p : Issuance) (events : List Event) : Issuance :=
  events.foldl step p

theorem run_snoc (p : Issuance) (events : List Event) (e : Event) :
    p.run (events ++ [e]) = (p.run events).step e := by
  simp [run]

variable {p p' : Issuance} {e : Event} {events : List Event}

/-! ## Steps, case by case -/

/-- What a step can be. -/
inductive Step (p : Issuance) : Event → Issuance → Prop where
  /-- The event does not fit, or no call has come any further. -/
  | around (e : Event) (listeners : List Listener) : Step p e { p with listeners }
  | ask (e : Event) {c : Call} : c.isPending = true → Step p e (p.ask c)
  /-- A call that has not drawn yet comes nearer to its handle, or ends without one. -/
  | advance (e : Event) {call : Nat} {c c' : Call} (listeners : List Listener) :
      p.calls[call]? = some c → c.isPending = true → c'.handle? = none →
      Step p e (p.put listeners call c')
  | draw {call : Nat} {errand : Errand} :
      p.calls[call]? = some (.poised errand) → Step p (.draw call) (p.draw call errand)
  /-- A call returns what goes by its handle, or fails. -/
  | finish {call : Nat} {errand : Errand} {handle : Handle} {c' : Call} (now : Instant)
      (listeners : List Listener) :
      p.calls[call]? = some (.drawn errand handle) → c'.isPending = false →
      (∀ name, c'.handle? = some name → name = handle) →
      Step p (.finish call now) (p.put listeners call c')
  | move {call : Nat} {l : Life} (m : Move) :
      p.calls[call]? = some (.connected l) →
      Step p (.move call m) (p.put p.listeners call (.connected (l.step m)))

theorem answerOf_past (now : Instant) (accepted : Listener.Accepted) (effects : List Effect) :
    (answerOf now accepted effects).isPending = false := by
  cases accepted <;> rfl

theorem dialledOf_past (now : Instant) (answer : Except ListenerError Connection × List Effect) :
    (dialledOf now answer).isPending = false := by
  obtain ⟨_ | _, _⟩ := answer <;> rfl

theorem step_idle (p : Issuance) (e : Event) : Step p e p :=
  .around e p.listeners

theorem step_grant {call listener : Nat} {l : Listener}
    (hcall : p.calls[call]? = some (.queued listener)) :
    Step p (.grant call) (p.grant call listener l) := by
  unfold grant
  split
  · exact step_idle p _
  · exact .advance _ _ hcall rfl rfl

theorem step_take {call listener : Nat} {permit : Permit} {l : Listener}
    (hcall : p.calls[call]? = some (.granted listener permit)) :
    Step p (.take call) (p.take call listener permit l) := by
  unfold take
  split
  · exact step_idle p _
  · exact .advance _ _ hcall rfl rfl

/-- A new connection that takes a stream keeps the handle that it was made with. -/
theorem bound_handle (e : Endpoint) (now : Instant) (handle : Handle) (runtime : Runtime)
    (stream : StreamId) (role : Role) :
    ((e.connection handle).1.initTransport now runtime stream role).connection.handle = handle :=
  Connection.initTransport_handle _ now runtime stream role

theorem welcome_handle (l : Listener) (now : Instant) (handle : Handle) (permit : Permit)
    (client : Waiting) {name : Handle} {effects : List Effect}
    (h : (answerOf now (l.welcome now handle permit client).1 effects).handle? = some name) :
    name = handle := by
  revert h
  simp only [Listener.welcome]
  split
  · intro h
    exact (Option.some.inj h).symm.trans (bound_handle _ _ _ _ _ _)
  · intro h
    cases h

theorem dialled_handle (e : Endpoint) (now : Instant) (handle : Handle) (stream : StreamId)
    (address : SocketAddress) {name : Handle}
    (h : (dialledOf now (e.dialled now handle stream address)).handle? = some name) :
    name = handle := by
  revert h
  simp only [Endpoint.dialled]
  split
  · intro h
    exact (Option.some.inj h).symm.trans (bound_handle _ _ _ _ _ _)
  · intro h
    cases h

theorem step_finish {call : Nat} {errand : Errand} {handle : Handle} (now : Instant)
    (hcall : p.calls[call]? = some (.drawn errand handle)) :
    Step p (.finish call now) (p.finish call errand handle now) := by
  have hsame : ∀ name, some handle = some name → name = handle :=
    fun name hname => (Option.some.inj hname).symm
  cases errand with
  | handle | create | equip e => exact .finish now _ hcall rfl hsame
  | welcome listener permit client =>
    simp only [finish]
    split
    · exact step_idle p _
    · exact .finish now _ hcall (answerOf_past now _ _)
        fun name => welcome_handle _ now handle permit client
  | dial e address stream =>
    exact .finish now _ hcall (dialledOf_past now _)
      fun name => dialled_handle e now handle stream address

/-- **Every event makes one of the steps.** -/
theorem step_is_step (p : Issuance) (e : Event) : Step p e (p.step e) := by
  cases e with
  | listen | arrive | release => exact .around _ _
  | handle | create | equip | accept | dial => exact .ask _ rfl
  | grant call =>
    simp only [step]
    split
    · split
      · exact step_grant ‹_›
      · exact step_idle p _
    · exact step_idle p _
  | take call =>
    simp only [step]
    split
    · split
      · exact step_take ‹_›
      · exact step_idle p _
    · exact step_idle p _
  | connect call stream =>
    simp only [step]
    split
    · exact .advance _ _ ‹_› rfl rfl
    · exact step_idle p _
  | refuse call fault =>
    simp only [step]
    split
    · exact .advance _ _ ‹_› rfl rfl
    · exact .advance _ _ ‹_› rfl rfl
    · exact step_idle p _
  | giveUp call =>
    simp only [step]
    split
    · exact .advance _ _ ‹_› rfl rfl
    · exact .advance _ _ ‹_› rfl rfl
    · exact .advance _ _ ‹_› rfl rfl
    · exact step_idle p _
  | draw call =>
    simp only [step]
    split
    · exact .draw ‹_›
    · exact step_idle p _
  | finish call now =>
    simp only [step]
    split
    · exact step_finish now ‹_›
    · exact step_idle p _
  | move call m =>
    simp only [step]
    split
    · exact .move m ‹_›
    · exact step_idle p _

/-! ## Names -/

/-- If the call has returned a connection, nobody has given it another handle. -/
def Call.KeepsName (events : List Event) (call : Nat) (c : Call) : Prop :=
  ∀ life, c = .connected life → ∀ e ∈ events, ¬ e.Renames call

theorem Call.KeepsName.before {call : Nat} {c : Call}
    (h : c.KeepsName (events ++ [e]) call) : c.KeepsName events call :=
  fun life hlife e he => h life hlife e (List.mem_append_left _ he)

/-- What is not a connection cannot be given another handle. -/
theorem Call.keepsName_of_other {call : Nat} {c : Call} (h : ∀ life, c ≠ .connected life) :
    c.KeepsName events call :=
  fun life hlife => absurd hlife (h life)

/-- The list of the handles drawn is complete and says who goes by them. Only connections that were
given another handle may go by one that is not in it. -/
structure Sound (p : Issuance) (events : List Event) : Prop where
  issued : HandleSource.Issued (p.generated.map Prod.snd) p.source
  once : (p.generated.map Prod.fst).Nodup
  past : ∀ call handle, (call, handle) ∈ p.generated →
    ∃ c, p.calls[call]? = some c ∧ c.isPending = false
  names : ∀ call c handle, p.calls[call]? = some c → c.handle? = some handle →
    c.KeepsName events call → (call, handle) ∈ p.generated

theorem start_sound : ({} : Issuance).Sound [] where
  issued := HandleSource.issued_drawMany 0
  once := List.nodup_nil
  past := fun call handle hmem => by cases hmem
  names := fun call c handle hcall => by simp at hcall

theorem Sound.around (h : p.Sound events) (listeners : List Listener) (e : Event) :
    ({ p with listeners } : Issuance).Sound (events ++ [e]) where
  issued := h.issued
  once := h.once
  past := h.past
  names := by
    intro call c handle hcall hgoes hkept
    exact h.names call c handle hcall hgoes hkept.before

/-- A call that was just made goes by no handle. -/
theorem Sound.ask (h : p.Sound events) {c : Call} (hpending : c.isPending = true) (e : Event) :
    (p.ask c).Sound (events ++ [e]) where
  issued := h.issued
  once := h.once
  past := by
    intro call handle hmem
    obtain ⟨there, hcall, hpast⟩ := h.past call handle hmem
    have hold : call < p.calls.length := (List.getElem?_eq_some_iff.mp hcall).1
    exact ⟨there, (List.getElem?_append_left hold).trans hcall, hpast⟩
  names := by
    intro call there handle hcall hgoes hkept
    rcases Nat.lt_or_ge call p.calls.length with hold | hnew
    · rw [Issuance.ask, List.getElem?_append_left hold] at hcall
      exact h.names call there handle hcall hgoes hkept.before
    · rw [Issuance.ask, List.getElem?_append_right hnew] at hcall
      obtain rfl : there = c := List.mem_singleton.mp (List.mem_of_getElem? hcall)
      rw [Call.handle?_of_pending hpending] at hgoes
      cases hgoes

/-- One call has come further: it may draw only if it might before, and the handle that it goes by
is the one that it has drawn. -/
theorem Sound.put (h : p.Sound events) {call : Nat} {c c' : Call} {e : Event}
    (listeners : List Listener) (hcall : p.calls[call]? = some c)
    (hpending : c'.isPending = true → c.isPending = true)
    (hname : ∀ handle, c'.handle? = some handle → c'.KeepsName (events ++ [e]) call →
      (call, handle) ∈ p.generated) :
    (p.put listeners call c').Sound (events ++ [e]) where
  issued := h.issued
  once := h.once
  past := by
    intro other handle hmem
    obtain ⟨there, hthere, hpast⟩ := h.past other handle hmem
    by_cases hsame : call = other
    · subst hsame
      obtain rfl : c = there := Option.some.inj (hcall.symm.trans hthere)
      refine ⟨c', ?_, ?_⟩
      · exact List.getElem?_set_self (List.getElem?_eq_some_iff.mp hcall).1
      · exact Bool.eq_false_iff.mpr fun hmay => by simp [hpending hmay] at hpast
    · exact ⟨there, (List.getElem?_set_ne hsame).trans hthere, hpast⟩
  names := by
    intro other there handle hthere hgoes hkept
    by_cases hsame : call = other
    · subst hsame
      rw [Issuance.put,
        List.getElem?_set_self (List.getElem?_eq_some_iff.mp hcall).1] at hthere
      obtain rfl : c' = there := Option.some.inj hthere
      exact hname handle hgoes hkept
    · rw [Issuance.put, List.getElem?_set_ne hsame] at hthere
      exact h.names other there handle hthere hgoes hkept.before

/-- A call that draws adds its handle to the list, where it has none yet. -/
theorem Sound.draw (h : p.Sound events) {call : Nat} {errand : Errand}
    (hcall : p.calls[call]? = some (.poised errand)) (e : Event) :
    (p.draw call errand).Sound (events ++ [e]) := by
  have hfirst : call ∉ p.generated.map Prod.fst := by
    intro hmem
    obtain ⟨⟨_, handle⟩, hdrawn, rfl⟩ := List.mem_map.mp hmem
    obtain ⟨c, hthere, hpast⟩ := h.past _ handle hdrawn
    cases Option.some.inj (hcall.symm.trans hthere)
    cases hpast
  -- The list grows first, which disturbs nobody, and then the call goes by what it has drawn.
  have hmade : call < p.calls.length := (List.getElem?_eq_some_iff.mp hcall).1
  refine ⟨?_, ?_, ?_, ?_⟩
  · simpa [Issuance.draw] using h.issued.draw
  · simp only [Issuance.draw, List.map_append, List.map_cons, List.map_nil]
    exact List.nodup_append.mpr ⟨h.once, List.nodup_singleton call,
      fun a ha b hb hab => hfirst (List.mem_singleton.mp hb ▸ hab ▸ ha)⟩
  · intro other handle hmem
    by_cases hsame : call = other
    · subst hsame
      exact ⟨_, List.getElem?_set_self hmade, rfl⟩
    · rcases List.mem_append.mp hmem with hold | hnew
      · obtain ⟨c, hthere, hpast⟩ := h.past other handle hold
        exact ⟨c, (List.getElem?_set_ne hsame).trans hthere, hpast⟩
      · cases List.mem_singleton.mp hnew
        exact absurd rfl hsame
  · intro other c handle hthere hgoes hkept
    by_cases hsame : call = other
    · subst hsame
      rw [Issuance.draw, List.getElem?_set_self hmade] at hthere
      cases Option.some.inj hthere
      cases Option.some.inj hgoes
      exact List.mem_append_right _ (List.mem_singleton_self _)
    · rw [Issuance.draw, List.getElem?_set_ne hsame] at hthere
      exact List.mem_append_left _ (h.names other c handle hthere hgoes hkept.before)

theorem sound_step (h : p.Sound events) (s : Step p e p') : p'.Sound (events ++ [e]) := by
  cases s with
  | around e listeners => exact h.around listeners e
  | ask e hpending => exact h.ask hpending e
  | advance e listeners hcall hpending hnone =>
    refine h.put listeners hcall (fun _ => hpending) fun handle hgoes => ?_
    rw [hnone] at hgoes
    cases hgoes
  | draw hcall => exact h.draw hcall _
  | finish now listeners hcall hpast hsame =>
    refine h.put listeners hcall (fun hmay => by simp [hpast] at hmay) fun handle hgoes hkept => ?_
    rw [hsame handle hgoes]
    exact h.names _ _ _ hcall rfl (Call.keepsName_of_other (by simp))
  | @move call l m hcall =>
    refine h.put _ hcall (fun hmay => by cases hmay) fun handle hgoes hkept => ?_
    have hkept : ∀ e ∈ events ++ [.move call m], ¬ e.Renames call := hkept _ rfl
    -- Only a move that gives another handle could change the one that the connection goes by.
    have hsame : (l.step m).connection.handle = l.connection.handle := by
      apply Life.handle_step (Life.step_is_step l m)
      rintro name rfl
      exact hkept _ (List.mem_append_right _ (List.mem_singleton_self _)) ⟨name, rfl⟩
    obtain rfl : l.connection.handle = handle := hsame.symm.trans (Option.some.inj hgoes)
    exact h.names call _ _ hcall rfl fun _ _ e he => hkept e (List.mem_append_left _ he)

theorem sound_run (events : List Event) : (({} : Issuance).run events).Sound events := by
  induction events using List.reverseRecOn with
  | nil => exact start_sound
  | append_singleton events e ih =>
    rw [run_snoc]
    exact sound_step ih (step_is_step _ e)

/-- A handle tells the call that has drawn it. -/
theorem Sound.call_unique (h : p.Sound events) (hfew : p.generated.length ≤ UInt64.size)
    {a b : Nat} {handle : Handle} (ha : (a, handle) ∈ p.generated)
    (hb : (b, handle) ∈ p.generated) : a = b := by
  have hdistinct : (p.generated.map Prod.snd).Nodup :=
    h.issued.nodup (by simpa using hfew)
  exact congrArg Prod.fst (List.inj_on_of_nodup_map hdistinct ha hb rfl)

/-- **Generated handles identify connections.** Calls for handles and for connections, of an
endpoint or not, calls to accept and calls to dial go on side by side, and some fail or are dropped.
As long as no more handles were drawn than there are 64-bit words, no two of them are the same. A
handle that was returned, and the handle of a connection whose owner has never given it another one,
is the one that its call has drawn; so no two such connections share a handle. Handles of all kinds
are shown by different texts unless they are the same. -/
theorem generated_handles_identify (events : List Event)
    (hfew : (({} : Issuance).run events).generated.length ≤ UInt64.size) :
    let p := ({} : Issuance).run events
    (p.generated.map Prod.snd).Nodup ∧
      (∀ call handle, p.calls[call]? = some (.handed handle) → (call, handle) ∈ p.generated) ∧
      (∀ call life, p.calls[call]? = some (.connected life) →
        (∀ e ∈ events, ¬ e.Renames call) → (call, life.connection.handle) ∈ p.generated) ∧
      (∀ a b la lb, a ≠ b → p.calls[a]? = some (.connected la) →
        p.calls[b]? = some (.connected lb) → (∀ e ∈ events, ¬ e.Renames a ∧ ¬ e.Renames b) →
        la.connection.handle ≠ lb.connection.handle) ∧
      (∀ h : Handle, Handle.ofText h.render = h) ∧
      ∀ h h' : Handle, h.render = h'.render ↔ h = h' := by
  intro p
  have hsound : p.Sound events := sound_run events
  refine ⟨hsound.issued.nodup (by simpa using hfew), ?_, ?_, ?_, Handle.ofText_render,
    fun h h' => Handle.render_eq_iff⟩
  · intro call handle hcall
    exact hsound.names call _ handle hcall rfl (Call.keepsName_of_other (by simp))
  · intro call life hcall hkept
    exact hsound.names call _ _ hcall rfl fun _ _ => hkept
  · intro a b la lb hother hla hlb hkept hsame
    have ha := hsound.names a _ _ hla rfl fun _ _ e he => (hkept e he).1
    have hb := hsound.names b _ _ hlb rfl fun _ _ e he => (hkept e he).2
    rw [← hsame] at hb
    exact hother (hsound.call_unique hfew ha hb)

/-- Two calls to accept, one of which fails for want of a provider after it has drawn, a call to
dial that fails in the same way, a handle alone and two connections, all mixed. In the end one of
the connections is given the handle of another. -/
def crowd : List Event :=
  let context : Tls.Context := { server := some { chain := [] } }
  let endpoint : Endpoint := { provider := some ⟨fun _ => some context, false⟩ }
  [.listen ⟨0, ⟨localhost, 40000, 0⟩, endpoint, 2, 2, []⟩,
    .listen ⟨1, ⟨localhost, 40001, 0⟩, {}, 1, 1, []⟩,
    .accept 0, .accept 1, .create, .handle, .dial {} ⟨localhost, 40000, 0⟩, .equip endpoint,
    .grant 0, .grant 1, .arrive 0 ⟨⟨0⟩, ⟨localhost, 50000, 0⟩⟩,
    .arrive 1 ⟨⟨1⟩, ⟨localhost, 50001, 0⟩⟩, .take 0, .take 1,
    .draw 1, .draw 0, .draw 3, .finish 1 0, .draw 2, .connect 4 ⟨2⟩, .draw 4, .finish 0 0,
    .finish 4 0, .draw 5, .finish 5 0, .finish 2 0, .finish 3 0,
    .move 5 (.set (.handle ⟨2⟩))]

/-- The handle that was given away is shared, and no other is. -/
theorem generated_handles_identify_of_crowd :
    let p := ({} : Issuance).run crowd
    p.generated = [(1, ⟨1⟩), (0, ⟨2⟩), (3, ⟨3⟩), (2, ⟨4⟩), (4, ⟨5⟩), (5, ⟨6⟩)] ∧
      p.generated.length ≤ UInt64.size ∧
      ∃ la lb lc, p.calls[0]? = some (.connected la) ∧ p.calls[2]? = some (.connected lb) ∧
        p.calls[5]? = some (.connected lc) ∧ la.connection.handle ≠ lb.connection.handle ∧
        la.connection.handle = lc.connection.handle := by
  have hgenerated : (({} : Issuance).run crowd).generated =
      [(1, ⟨1⟩), (0, ⟨2⟩), (3, ⟨3⟩), (2, ⟨4⟩), (4, ⟨5⟩), (5, ⟨6⟩)] := rfl
  have hfew : (({} : Issuance).run crowd).generated.length ≤ UInt64.size := by
    rw [hgenerated]
    decide
  have hkept : ∀ e ∈ crowd, ¬ e.Renames 0 ∧ ¬ e.Renames 2 := by
    simp [crowd, Event.Renames]
  have hapart := (generated_handles_identify crowd hfew).2.2.2.1
  exact ⟨hgenerated, hfew, _, _, _, rfl, rfl, rfl, hapart 0 2 _ _ (by decide) rfl rfl hkept, rfl⟩

end Issuance

end BoundedTls
