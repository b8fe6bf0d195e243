import BoundedTls.Listener

/-!
# Calls to accept

Any number of calls to accept can be under way on one listener. Each of them waits for a slot, then
for a client, and may fail or be dropped on the way; what it returns, a permit and a connection, is
dropped later, each on its own. All of this may interleave.

## Architecture

- **Calls**: a call to accept and what is left of its answer (`Reception.Call`).
- **Receptions**: a listener with all calls ever made to it, and one total step function
  (`Reception.step`). An event that does not fit its call changes nothing.
- **Operations**: what taking a slot, taking a client and giving a slot back do to a listener.
- **Accepting at once**: `Listener.accept` is one particular order of these events.
-/

namespace BoundedTls

open BoundedTls.Address BoundedTls.Time

/-- A call to accept, and what is left of its answer. -/
inductive Reception.Call where
  /-- Waits for a slot. -/
  | queued
  /-- Holds a slot and waits for a client. -/
  | granted (permit : Permit)
  /-- Has returned a permit and a connection. Each is there until it is dropped. -/
  | accepted (permit : Option Permit) (connection : Option Connection) (peer : SocketAddress)
  | failed (error : ListenerError)
  /-- Dropped while it waited. -/
  | dropped

/-- A listener and all calls ever made to it, oldest first. -/
structure Reception where
  listener : Listener
  calls : List Reception.Call := []

namespace Reception

/-- What can happen around a listener. Calls are numbered in their order. -/
inductive Event where
  | call
  | grant (call : Nat)
  | arrive (w : Waiting)
  /-- A call that holds a slot takes the client that has waited longest. -/
  | receive (call : Nat) (now : Instant) (handle : Handle)
  /-- A call that holds a slot learns that no client can be taken. -/
  | refuse (call : Nat) (fault : Fault)
  | giveUp (call : Nat)
  | dropPermit (call : Nat)
  | dropConnection (call : Nat)

/-- A call has this standing now, and the listener has changed with it. -/
def put (r : Reception) (l : Listener) (call : Nat) (standing : Call) : Reception :=
  ⟨l, r.calls.set call standing⟩

/-- A call that waits takes a slot, if one is free. -/
def grant (r : Reception) (call : Nat) : Reception :=
  match r.listener.grant with
  | none => r
  | some (permit, l) => r.put l call (.granted permit)

/-- A call with a slot gets its answer, unless nobody waits. -/
def receive (r : Reception) (call : Nat) (permit : Permit) (now : Instant) (handle : Handle) :
    Reception :=
  match r.listener.receive now handle permit with
  | (.blocked, l, _) => { r with listener := l }
  | (.connection c peer permit, l, _) => r.put l call (.accepted (some permit) (some c) peer)
  | (.failed e, l, _) => r.put l call (.failed e)

def refuse (r : Reception) (call : Nat) (permit : Permit) (fault : Fault) : Reception :=
  let (_, l, _) := r.listener.refuse permit fault
  r.put l call (.failed (.accept fault))

/-- One event. -/
def step (r : Reception) (e : Event) : Reception :=
  match e with
  | .call => { r with calls := r.calls ++ [.queued] }
  | .arrive w => { r with listener := r.listener.arrive w }
  | .grant call =>
    match r.calls[call]? with
    | some .queued => r.grant call
    | _ => r
  | .receive call now handle =>
    match r.calls[call]? with
    | some (.granted permit) => r.receive call permit now handle
    | _ => r
  | .refuse call fault =>
    match r.calls[call]? with
    | some (.granted permit) => r.refuse call permit fault
    | _ => r
  | .giveUp call =>
    match r.calls[call]? with
    | some .queued => r.put r.listener call .dropped
    | some (.granted permit) => r.put (r.listener.release permit) call .dropped
    | _ => r
  | .dropPermit call =>
    match r.calls[call]? with
    | some (.accepted (some permit) c peer) =>
      r.put (r.listener.release permit) call (.accepted none c peer)
    | _ => r
  | .dropConnection call =>
    match r.calls[call]? with
    | some (.accepted permit (some _) peer) => r.put r.listener call (.accepted permit none peer)
    | _ => r

def run (r : Reception) (events : List Event) : Reception :=
  events.foldl step r

/-- The permit that a call holds, or that is left of its answer. -/
def Call.permit? : Call → Option Permit
  | granted permit => some permit
  | accepted permit _ _ => permit
  | queued | failed _ | dropped => none

def Call.isGranted : Call → Bool
  | granted _ => true
  | _ => false

/-- The permit that the call has returned is alive. -/
def Call.isHolding : Call → Bool
  | accepted permit _ _ => permit.isSome
  | _ => false

/-- The number of calls in progress that were granted a slot. -/
def granted (r : Reception) : Nat :=
  r.calls.countP Call.isGranted

def permits (r : Reception) : Nat :=
  r.calls.countP Call.isHolding

@[simp] theorem put_listener (r : Reception) (l : Listener) (call : Nat) (standing : Call) :
    (r.put l call standing).listener = l := rfl

@[simp] theorem put_calls (r : Reception) (l : Listener) (call : Nat) (standing : Call) :
    (r.put l call standing).calls = r.calls.set call standing := rfl

@[simp] theorem run_nil (r : Reception) : r.run [] = r := rfl

@[simp] theorem run_cons (r : Reception) (e : Event) (events : List Event) :
    r.run (e :: events) = (r.step e).run events := rfl

end Reception

/-! ## Operations -/

namespace Listener

variable {l : Listener} {permit : Permit}

/-- A permit of the listener frees one slot. -/
theorem release_own (h : permit.listener = l.id) :
    l.release permit = { l with available := l.available + 1 } := by
  simp [release, h]

/-- A slot that is taken is free no more, and its permit is one of the listener's own. -/
theorem grant_eq_some {granted : Listener} (h : l.grant = some (permit, granted)) :
    permit.listener = l.id ∧ l.available = granted.available + 1 ∧
      granted = { l with available := granted.available } := by
  unfold grant at h
  split at h
  · cases h
  · rename_i free hfree
    cases h
    exact ⟨rfl, hfree, rfl⟩

/-- What becomes of a client: a connection that holds the slot, or an error of the transport with
the slot given back. -/
theorem welcome_cases (l : Listener) (now : Instant) (handle : Handle) (permit : Permit)
    (w : Waiting) :
    (∃ c effects, l.welcome now handle permit w = (.connection c w.peer permit, l, effects)) ∨
      ∃ e effects, l.welcome now handle permit w =
        (.failed (.transport e), l.release permit, effects) := by
  unfold welcome
  cases hresult :
      ((l.endpoint.connection handle).1.initTransport now .current w.stream .server).result with
  | ok =>
    apply Or.inl
    simp only [hresult]
    exact ⟨_, _, rfl⟩
  | error e =>
    refine Or.inr ⟨e, ?_⟩
    simp only [hresult]
    exact ⟨_, rfl⟩

/-- What becomes of a call that holds a slot: it goes on waiting if nobody waits to be accepted, and
otherwise it returns a connection with its own permit, or fails and gives its slot back. -/
theorem receive_cases (l : Listener) (now : Instant) (handle : Handle) (permit : Permit) :
    (l.backlog = [] ∧ l.receive now handle permit = (.blocked, l, [])) ∨
      ∃ w backlog, l.backlog = w :: backlog ∧
        ((∃ c effects, l.receive now handle permit =
            (.connection c w.peer permit, { l with backlog }, effects)) ∨
          ∃ e effects, l.receive now handle permit =
            (.failed (.transport e), { l with backlog }.release permit, effects)) := by
  unfold receive
  split
  · rename_i hnobody
    exact Or.inl ⟨hnobody, rfl⟩
  · rename_i w backlog hbacklog
    exact Or.inr ⟨w, backlog, hbacklog, welcome_cases _ now handle permit w⟩

end Listener

namespace Reception

/-! ## Accepting at once -/

/-- A call that has just been made takes a free slot. -/
theorem step_grant_new (r : Reception) {permit : Permit} {l : Listener}
    (h : r.listener.grant = some (permit, l)) :
    (r.step .call).step (.grant r.calls.length) = ⟨l, r.calls ++ [.granted permit]⟩ := by
  simp [step, grant, put, h]

/-- **Accepting without waiting** is a call that takes a slot and a client at once, and is dropped
if it has to wait for either. -/
theorem run_accept (r : Reception) (now : Instant) (handle : Handle) :
    (r.run [.call, .grant r.calls.length, .receive r.calls.length now handle,
      .giveUp r.calls.length]).listener = (r.listener.accept now handle).2.1 := by
  simp only [run_cons, run_nil]
  unfold Listener.accept
  cases hgrant : r.listener.grant with
  | none => simp [step, grant, hgrant]
  | some granted =>
    obtain ⟨permit, l⟩ := granted
    rw [step_grant_new r hgrant]
    obtain ⟨-, hblocked⟩ | ⟨w, backlog, -, ⟨c, effects, hconnection⟩ | ⟨e, effects, hfailed⟩⟩ :=
      l.receive_cases now handle permit
    · simp [step, receive, hblocked]
    · simp [step, receive, hconnection]
    · simp [step, receive, hfailed]

end Reception

end BoundedTls
