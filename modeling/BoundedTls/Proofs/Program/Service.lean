import BoundedTls.Proofs.Connection.Story
import BoundedTls.Proofs.Listener.Reception
import BoundedTls.Proofs.Program.Echoing
import BoundedTls.Program.Session

/-!
# Serving clients

A server takes clients in, one after the other, and serves all of them at the same time. Clients
arrive, handshakes end, streams bring and take bytes, farewells succeed or fail, and accepting
fails, all of it in any order.

## Architecture

- **Sessions**: what can happen to one client, as one total step function (`Session.step`) over the
  operations of a session. An event that does not fit what the session is in the middle of changes
  nothing.
- **Clients**: a session with all that was done for it (`Client`).
- **Services**: the listener, the loop that accepts, and all clients ever taken in
  (`Service.step`). `Service.Step` says case by case what an event can make of them.
- **Accepting**: what a call to accept can come to (`Service.Receives`).
-/

namespace BoundedTls.Program

open BoundedTls.Address BoundedTls.Time

/-! ## Sessions -/

namespace Session

/-- What can happen to a session. -/
inductive Event where
  | begin (now : Instant)
  /-- Where the handshake has ended and its deadline has passed, the one that is looked at first
  wins. -/
  | look (now : Instant) (ended : Option TaskResult) (timerFirst : Bool)
  | stream (event : Echo.Event)
  | leave (lateEnded : Bool)
  /-- The farewell to the client has come to its end. -/
  | farewell (answer : Except Fault Unit)

def step (s : Session) (e : Event) : Session × List Effect :=
  match s.standing, e with
  | .accepted, .begin now => s.begin now
  | .securing task, .look now ended timerFirst => s.look task now ended timerFirst
  | .echoing stream echo, .stream event => s.relay stream echo event
  | .leaving, .leave lateEnded => s.leave lateEnded
  | .parting stream, .farewell answer => s.part (some stream) answer
  | _, _ => (s, [])

/-- The bytes that an event brings to a session. -/
def brings (s : Session) (e : Event) : List UInt8 :=
  match s.standing, e with
  | .echoing _ echo, .stream event => echo.brings event
  | _, _ => []

/-- The bytes that an event takes from a session. -/
def yields (s : Session) (e : Event) : List UInt8 :=
  match s.standing, e with
  | .echoing _ echo, .stream event => echo.yields event
  | _, _ => []

/-- The event is one that the session waits for. -/
def Event.fits : Event → Standing → Bool
  | .begin _, .accepted | .look _ _ _, .securing _ | .stream _, .echoing _ _
  | .leave _, .leaving | .farewell _, .parting _ => true
  | _, _ => false

end Session

/-! ## Clients -/

/-- A client that was taken in, with all that was done for it. -/
structure Client where
  session : Session
  /-- What was done, oldest first, from the call to accept on. -/
  done : List Effect
  read : List UInt8 := []
  written : List UInt8 := []
  /-- The task that serves the client has ended. -/
  ended : Bool := false

namespace Client

def handle (c : Client) : Handle :=
  c.session.connection.handle

def peer (c : Client) : SocketAddress :=
  c.session.peer

/-- The task that serves the client has not ended. -/
def isAlive (c : Client) : Bool :=
  !c.ended

def step (c : Client) (e : Session.Event) : Client :=
  { c with
    session := (c.session.step e).1
    done := c.done ++ (c.session.step e).2
    read := c.read ++ c.session.brings e
    written := c.written ++ c.session.yields e }

/-- The task of the client ends, and gives its slot back. -/
def finish (c : Client) : Client :=
  { c with session := { c.session with permit := none }, ended := true }

/-- What was logged about the client. -/
def log (c : Client) : List Log.Event :=
  c.done.filterMap Effect.told?

end Client

/-! ## Services -/

/-- What the server is in the middle of beside its sessions. -/
inductive Service.Loop where
  /-- Waits for a slot. -/
  | waiting
  /-- Holds a slot and waits for a client. -/
  | granted (permit : Permit)
  /-- Was interrupted, and accepts no more clients. -/
  | stopped

/-- A server with all clients that it has ever taken in. -/
structure Service where
  listener : Listener
  loop : Service.Loop := .waiting
  /-- Oldest first. -/
  clients : List Client := []
  log : List Log.Event := []

namespace Service

/-- What can happen to a server. Clients are numbered in the order in which they were taken in. -/
inductive Event where
  | arrive (w : Waiting)
  | grant
  /-- The call to accept takes the client that has waited longest. -/
  | receive (now : Instant) (handle : Handle)
  /-- The call to accept learns that no client can be taken. -/
  | refuse (fault : Fault)
  | interrupt
  | session (client : Nat) (e : Session.Event)
  /-- The task that serves a client ends, if it has come to its end. -/
  | finish (client : Nat)

/-- A call to accept is answered: the client is served from now on, or the failure is logged. -/
def answered (s : Service) : Listener.Accepted × Listener × List Effect → Service
  | (.blocked, l, _) => { s with listener := l }
  | (.connection connection peer permit, l, effects) =>
    { s with
      listener := l
      loop := .waiting
      clients :=
        s.clients ++ [{ session := { connection, peer, permit := some permit }, done := effects }] }
  | (.failed e, l, effects) =>
    { s with
      listener := l
      loop := .waiting
      log := s.log ++ effects.filterMap Effect.told? ++ [.acceptFailed e] }

/-- The task of a client ends once there is nothing left to do, and what it holds is dropped. -/
def finish (s : Service) (k : Nat) (c : Client) : Service :=
  match c.session.standing with
  | .closed =>
    { s with
      listener := (c.session.permit.map s.listener.release).getD s.listener
      clients := s.clients.set k c.finish }
  | _ => s

/-- One event. -/
def step (s : Service) (e : Event) : Service :=
  match s.loop, e with
  | _, .arrive w => { s with listener := s.listener.arrive w }
  | _, .session k e =>
    match s.clients[k]? with
    | some c => { s with clients := s.clients.set k (c.step e) }
    | none => s
  | _, .finish k =>
    match s.clients[k]? with
    | some c => s.finish k c
    | none => s
  | .waiting, .grant =>
    match s.listener.grant with
    | some (permit, l) => { s with listener := l, loop := .granted permit }
    | none => s
  | .granted permit, .receive now handle => s.answered (s.listener.receive now handle permit)
  | .granted permit, .refuse fault => s.answered (s.listener.refuse permit fault)
  | .waiting, .interrupt => { s with loop := .stopped, log := s.log ++ [.interrupted] }
  | .granted permit, .interrupt =>
    -- The call to accept is dropped, and its slot with it.
    { s with
      listener := s.listener.release permit
      loop := .stopped
      log := s.log ++ [.interrupted] }
  | _, _ => s

def run (s : Service) (events : List Event) : Service :=
  events.foldl step s

/-- The number of tasks that serve a client. -/
def alive (s : Service) : Nat :=
  s.clients.countP Client.isAlive

/-- The number of slots that the loop holds. -/
def held (s : Service) : Nat :=
  match s.loop with
  | .granted _ => 1
  | .waiting | .stopped => 0

theorem held_of_waiting {s : Service} (h : s.loop = .waiting) : s.held = 0 := by
  rw [held, h]

theorem held_of_granted {s : Service} {permit : Permit} (h : s.loop = .granted permit) :
    s.held = 1 := by
  rw [held, h]

theorem held_of_stopped {s : Service} (h : s.loop = .stopped) : s.held = 0 := by
  rw [held, h]

@[simp] theorem run_nil (s : Service) : s.run [] = s := rfl

@[simp] theorem run_cons (s : Service) (e : Event) (events : List Event) :
    s.run (e :: events) = (s.step e).run events := rfl

/-! ## Events, case by case -/

section

variable {s : Service} {permit : Permit} {k : Nat} {c : Client}

theorem step_receive (hgranted : s.loop = .granted permit) (now : Instant) (handle : Handle) :
    s.step (.receive now handle) = s.answered (s.listener.receive now handle permit) := by
  simp only [step, hgranted]

theorem step_refuse (hgranted : s.loop = .granted permit) (fault : Fault) :
    s.step (.refuse fault) = s.answered (s.listener.refuse permit fault) := by
  simp only [step, hgranted]

theorem step_finish (hk : s.clients[k]? = some c) : s.step (.finish k) = s.finish k c := by
  simp only [step, hk]

theorem finish_of_closed (hclosed : c.session.standing = .closed) :
    s.finish k c =
      { s with
        listener := (c.session.permit.map s.listener.release).getD s.listener
        clients := s.clients.set k c.finish } := by
  simp only [finish, hclosed]

/-- A task with something left to do does not end. -/
theorem finish_of_busy (hbusy : c.session.standing ≠ .closed) : s.finish k c = s := by
  unfold finish
  split
  · rename_i hclosed
    exact absurd hclosed hbusy
  · rfl

/-- What an event can make of a server. -/
inductive Step (s : Service) : Event → Service → Prop where
  /-- The event does not fit, or nothing comes of it. Only a server that is stopped takes no notice
  of an interrupt. -/
  | idle {e : Event} : (e = .interrupt → s.loop = .stopped) → Step s e s
  | arrive (w : Waiting) : Step s (.arrive w) { s with listener := s.listener.arrive w }
  | grant {permit : Permit} {l : Listener} :
      s.loop = .waiting → s.listener.grant = some (permit, l) →
      Step s .grant { s with listener := l, loop := .granted permit }
  | receive {permit : Permit} (now : Instant) (handle : Handle) :
      s.loop = .granted permit →
      Step s (.receive now handle) (s.answered (s.listener.receive now handle permit))
  | refuse {permit : Permit} (fault : Fault) :
      s.loop = .granted permit →
      Step s (.refuse fault) (s.answered (s.listener.refuse permit fault))
  | stop :
      s.loop = .waiting →
      Step s .interrupt { s with loop := .stopped, log := s.log ++ [.interrupted] }
  /-- The call to accept is dropped, and its slot with it. -/
  | drop {permit : Permit} :
      s.loop = .granted permit →
      Step s .interrupt
        { s with
          listener := s.listener.release permit
          loop := .stopped
          log := s.log ++ [.interrupted] }
  | session {k : Nat} {c : Client} (e : Session.Event) :
      s.clients[k]? = some c →
      Step s (.session k e) { s with clients := s.clients.set k (c.step e) }
  | finish {k : Nat} {c : Client} :
      s.clients[k]? = some c → Step s (.finish k) (s.finish k c)

/-- **Every event makes one of the steps.** -/
theorem step_is_step (s : Service) (e : Event) : Step s e (s.step e) := by
  cases e with
  | arrive w =>
    simp only [step]
    exact .arrive w
  | session k e =>
    simp only [step]
    split
    · exact .session e ‹_›
    · exact .idle (by simp)
  | finish k =>
    simp only [step]
    split
    · exact .finish ‹_›
    · exact .idle (by simp)
  | grant =>
    cases hloop : s.loop with
    | waiting =>
      simp only [step, hloop]
      split
      · exact .grant hloop ‹_›
      · exact .idle (by simp)
    | granted | stopped =>
      simp only [step, hloop]
      exact .idle (by simp)
  | receive now handle =>
    cases hloop : s.loop with
    | granted permit =>
      rw [step_receive hloop]
      exact .receive now handle hloop
    | waiting | stopped =>
      simp only [step, hloop]
      exact .idle (by simp)
  | refuse fault =>
    cases hloop : s.loop with
    | granted permit =>
      rw [step_refuse hloop]
      exact .refuse fault hloop
    | waiting | stopped =>
      simp only [step, hloop]
      exact .idle (by simp)
  | interrupt =>
    cases hloop : s.loop with
    | waiting =>
      simp only [step, hloop]
      exact .stop hloop
    | granted permit =>
      simp only [step, hloop]
      exact .drop hloop
    | stopped =>
      simp only [step, hloop]
      exact .idle fun _ => hloop

end

/-! ## Accepting -/

/-- A connection that was accepted is ready, and both the stream and the client were told of. -/
theorem welcome_connection {l l' : Listener} {now : Instant} {handle : Handle}
    {permit kept : Permit} {w : Waiting} {c : Connection} {peer : SocketAddress}
    {effects : List Effect}
    (h : l.welcome now handle permit w = (.connection c peer kept, l', effects)) :
    c.Shaped ∧ c.phase = .ready ∧ ∃ free, effects.filterMap Effect.told? =
      [.transportReady c.handle .server, .accepted peer c.handle free] := by
  have hstamped : (l.endpoint.connection handle).1.Shaped :=
    Setting.put_shaped (.stamp l.endpoint) _ (Connection.new_shaped handle)
  unfold Listener.welcome at h
  simp only at h
  split at h
  · rename_i hok
    obtain ⟨hready, -, hhandle, -, htold⟩ := Connection.initTransport_ok hok
    cases h
    refine ⟨(Connection.initTransport_turn ..).shaped hstamped, hready, ?_⟩
    -- The stamping is not told of.
    have hsilent : (l.endpoint.connection handle).2.filterMap Effect.told? = [] := rfl
    rw [List.filterMap_append, List.filterMap_append, hsilent, htold, hhandle]
    exact ⟨_, rfl⟩
  · cases h

/-- A call to accept has failed: its slot is free again, the failure is logged, and the loop goes
on. -/
structure AcceptFails (s s' : Service) : Prop where
  clients : s'.clients = s.clients
  loop : s'.loop = .waiting
  id : s'.listener.id = s.listener.id
  free : s'.listener.available = s.listener.available + 1
  logged : ∃ events e, s'.log = s.log ++ events ++ [.acceptFailed e]

/-- A client as it is taken in, with a connection that is ready and told of. -/
structure Admitted (c : Client) : Prop where
  standing : c.session.standing = .accepted
  shaped : c.session.connection.Shaped
  ready : c.session.connection.phase = .ready
  log : ∃ free, c.log = [.transportReady c.handle .server, .accepted c.peer c.handle free]
  read : c.read = []
  written : c.written = []
  ended : c.ended = false

/-- What becomes of a call to accept that holds a slot. -/
inductive Receives (s : Service) (permit : Permit) : Service → Prop where
  | nobody : s.listener.backlog = [] → Receives s permit s
  /-- The client that has waited longest is taken in, and keeps the slot. -/
  | taken {w : Waiting} {backlog : List Waiting} {c : Client} :
      s.listener.backlog = w :: backlog → Admitted c → c.peer = w.peer →
      c.session.permit = some permit →
      Receives s permit
        { s with
          listener := { s.listener with backlog }
          loop := .waiting
          clients := s.clients ++ [c] }
  | failed {s' : Service} : AcceptFails s s' → Receives s permit s'

variable {s : Service} {permit : Permit}

theorem refuse_fails (hown : permit.listener = s.listener.id) (fault : Fault) :
    AcceptFails s (s.answered (s.listener.refuse permit fault)) := by
  have hfree : (s.listener.release permit).available = s.listener.available + 1 := by
    rw [Listener.release_own hown]
  have hid : (s.listener.release permit).id = s.listener.id := by
    rw [Listener.release_own hown]
  exact ⟨rfl, rfl, hid, hfree, [], .accept fault, rfl⟩

/-- **Accepting** takes the client that has waited longest, or fails and gives the slot back; if
nobody waits, nothing happens. -/
theorem receives (hown : permit.listener = s.listener.id) (now : Instant) (handle : Handle) :
    Receives s permit (s.answered (s.listener.receive now handle permit)) := by
  rcases s.listener.receive_cases now handle permit with
    ⟨hnobody, hblocked⟩ | ⟨w, backlog, hbacklog, ⟨c, effects, htaken⟩ | ⟨e, effects, hfailed⟩⟩
  · rw [hblocked]
    exact .nobody hnobody
  · have hwelcome : { s.listener with backlog }.welcome now handle permit w =
        (.connection c w.peer permit, { s.listener with backlog }, effects) := by
      simpa only [Listener.receive, hbacklog] using htaken
    obtain ⟨hshaped, hready, hlog⟩ := welcome_connection hwelcome
    rw [htaken]
    exact .taken hbacklog ⟨rfl, hshaped, hready, hlog, rfl, rfl, rfl⟩ rfl rfl
  · rw [hfailed, Listener.release_own (l := { s.listener with backlog }) hown]
    exact .failed ⟨rfl, rfl, rfl, rfl, _, .transport e, rfl⟩

end Service

end BoundedTls.Program
