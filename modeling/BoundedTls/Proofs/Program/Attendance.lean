import BoundedTls.Program.Server
import BoundedTls.Proofs.Program.Conduct

/-!
# Attending to clients in the world

The server serves a client as far as it can: it begins the handshake, waits for its end, echoes what
has arrived and shuts the connection down. In the world each of these looks at the clock, at the
tasks that run and at what the network holds. What comes of it is a run of the events of a session,
so what holds of every run holds of the server.

## Architecture

- **Runs**: what events make of a session (`Session.Reaches`) and of a client (`Client.run`).
- **In the world**: each thing that the server does for a client is such a run.
- **Slots**: the server keeps the slot of a client or gives it back (`Server.Attends`).
-/

namespace BoundedTls.Program

namespace Session

/-! ## Runs -/

def run (s : Session) (events : List Event) : Session :=
  events.foldl (fun s e => (s.step e).1) s

/-- The one session becomes the other by events. -/
def Reaches (s s' : Session) : Prop :=
  ∃ events, s.run events = s'

variable {s s' : Session}

theorem Reaches.refl (s : Session) : s.Reaches s :=
  ⟨[], rfl⟩

theorem Reaches.trans {later : Session} (first : s.Reaches s') (rest : s'.Reaches later) :
    s.Reaches later := by
  obtain ⟨events, rfl⟩ := first
  obtain ⟨more, rfl⟩ := rest
  exact ⟨events ++ more, List.foldl_append⟩

theorem Reaches.step (s : Session) (e : Event) : s.Reaches (s.step e).1 :=
  ⟨[e], rfl⟩

/-! ## In the world -/

theorem reaches_lookIn {task : HandshakeTask} (h : s.standing = .securing task) (w : World) :
    s.Reaches (s.lookIn w task).1 := by
  have hstep : (s.step (.look w.now (w.resultOf task) false)).1 = (s.lookIn w task).1 := by
    simp only [Session.step, h, lookIn]
  exact hstep ▸ Reaches.step s _

theorem reaches_secure (h : s.standing = .accepted) (w : World) : s.Reaches (s.secure w).1 := by
  have hbegun : (s.step (.begin w.now)).1 = (s.begin w.now).1 := by
    simp only [Session.step, h]
  have hfirst : s.Reaches (s.begin w.now).1 := hbegun ▸ Reaches.step s _
  unfold secure
  generalize s.begin w.now = begun at hfirst ⊢
  obtain ⟨begun, effects⟩ := begun
  cases hstanding : begun.standing with
  | securing task =>
    -- The handshake is looked at when its task has ended, and once more at the deadline.
    simp only [hstanding]
    have hlook := hfirst.trans (reaches_lookIn hstanding
      ((w.performAll effects).runUntil fun tasks => tasks.any (·.isEndOf task)))
    generalize begun.lookIn _ task = looked at hlook ⊢
    obtain ⟨looked, w'⟩ := looked
    cases hagain : looked.standing with
    | securing task =>
      simp only
      exact hlook.trans (reaches_lookIn hagain _)
    | accepted | echoing | leaving | parting | closed => simpa only [hagain] using hlook
  | accepted | echoing | leaving | parting | closed => simpa only [hstanding] using hfirst

theorem reaches_echo (bound : Nat) (s : Session) (w : World) : s.Reaches (echo bound s w).1 := by
  induction bound generalizing s w with
  | zero => exact .refl s
  | succ bound ih =>
    unfold echo
    cases hstanding : s.standing with
    | echoing stream going =>
      simp only
      generalize going.next stream w = next
      obtain ⟨event, w⟩ := next
      cases event with
      -- The stream waits, and the echo with it.
      | none => exact .refl s
      | some event =>
        have hrelayed : (s.step (.stream event)).1 = (s.relay stream going event).1 := by
          simp only [Session.step, hstanding]
        have hfirst : s.Reaches (s.relay stream going event).1 := hrelayed ▸ Reaches.step s _
        exact hfirst.trans (ih _ _)
    | accepted | securing | leaving | parting | closed => exact .refl s

theorem reaches_close (h : s.standing = .leaving) (w : World) : s.Reaches (s.close w).1 := by
  have hleft (lateEnded : Bool) : (s.step (.leave lateEnded)).1 = (s.leave lateEnded).1 := by
    simp only [Session.step, h]
  have hfirst (lateEnded : Bool) : s.Reaches (s.leave lateEnded).1 :=
    hleft lateEnded ▸ Reaches.step s _
  unfold close
  have hnow := hfirst (s.connection.abandoned.bind w.resultOf).isSome
  generalize s.leave _ = left at hnow ⊢
  obtain ⟨left, effects⟩ := left
  cases hstanding : left.standing with
  | parting stream =>
    simp only [hstanding]
    generalize (w.performAll effects).sayFarewell stream = said
    obtain ⟨farewell, w'⟩ := said
    have hparted : (left.step (.farewell farewell)).1 = (left.part (some stream) farewell).1 := by
      simp only [Session.step, hstanding]
    exact hnow.trans (hparted ▸ Reaches.step left _)
  | accepted | securing | echoing | leaving | closed => simpa only [hstanding] using hnow

/-- **Whatever the server does for a client in the world is a run of the events of its session.** -/
theorem reaches_proceed (s : Session) (w : World) : s.Reaches (s.proceed w).1 := by
  have hsecured : s.Reaches (if s.standing = .accepted then s.secure w else (s, w)).1 := by
    split
    · rename_i haccepted
      exact reaches_secure haccepted w
    · exact .refl s
  unfold proceed
  generalize (if s.standing = .accepted then s.secure w else (s, w)) = secured at hsecured ⊢
  obtain ⟨secured, w⟩ := secured
  have hechoed := hsecured.trans (reaches_echo (secured.echoBound w) secured w)
  simp only
  generalize echo (secured.echoBound w) secured w = echoed at hechoed ⊢
  obtain ⟨echoed, w⟩ := echoed
  simp only
  split
  · rename_i hleaving
    exact hechoed.trans (reaches_close hleaving w)
  · exact hechoed

end Session

namespace Client

def run (c : Client) (events : List Session.Event) : Client :=
  events.foldl step c

theorem run_session (c : Client) (events : List Session.Event) :
    (c.run events).session = c.session.run events := by
  induction events generalizing c with
  | nil => rfl
  | cons e events ih => exact ih (c.step e)

variable {c : Client}

theorem accounted_run (h : c.Accounted) (events : List Session.Event) :
    (c.run events).Accounted := by
  induction events generalizing c with
  | nil => exact h
  | cons e events ih => exact ih (accounted_step h e)

theorem run_keeps (c : Client) (events : List Session.Event) :
    c.session.Keeps (c.run events).session := by
  induction events generalizing c with
  | nil => exact ⟨rfl, rfl, rfl⟩
  | cons e events ih =>
    obtain ⟨hhandle, hpeer, hpermit⟩ := c.session.step_keeps e
    obtain ⟨hhandle', hpeer', hpermit'⟩ := ih (c.step e)
    exact ⟨hhandle'.trans hhandle, hpeer'.trans hpeer, hpermit'.trans hpermit⟩

/-- As far as the server serves a client in the world, it has come to a session for which an account
is kept. -/
theorem accounted_proceed (h : c.Accounted) (w : World) :
    ∃ events, (c.run events).session = (c.session.proceed w).1 ∧ (c.run events).Accounted := by
  obtain ⟨events, hevents⟩ := c.session.reaches_proceed w
  exact ⟨events, (c.run_session events).trans hevents, accounted_run h events⟩

end Client

/-! ## Slots -/

namespace Server

/-- What comes of a client that the server attends to. -/
inductive Attends (s : Server) (c : Client) (permit : Permit) : Server × World → Prop where
  /-- The server goes on serving it, and the client keeps its slot. -/
  | serves {s' : Server} {w : World} (events : List Session.Event) :
      (c.run events).Accounted → (c.run events).session.permit = some permit →
      s'.sessions = s.sessions ++ [(c.run events).session] → Attends s c permit (s', w)
  /-- Its connection is shut down, and its slot comes back. -/
  | parts {s' : Server} {w : World} (events : List Session.Event) :
      (c.run events).Decided → (c.run events).session.connection.phase = .shutdown →
      s'.sessions = s.sessions → Attends s c permit (s', w.takeBack permit)

variable {c : Client} {permit : Permit}

/-- **The server keeps the account of a client**, and gives its slot back if and when nothing is
left to do for it. -/
theorem attends (s : Server) (h : c.Accounted) (hpermit : c.session.permit = some permit)
    (w : World) : s.Attends c permit (s.attend w c.session) := by
  obtain ⟨events, hsession, haccounted⟩ :=
    Client.accounted_proceed h { w with handles := s.process.handles, trace := [] }
  have hheld : (c.run events).session.permit = some permit :=
    (c.run_keeps events).permit.trans hpermit
  have hproceed : (s.within w c.session.proceed).1 = (c.run events).session := hsession.symm
  have hsessions : (s.within w c.session.proceed).2.1.sessions = s.sessions := rfl
  unfold attend
  generalize s.within w c.session.proceed = attended at hproceed hsessions ⊢
  obtain ⟨session, s', w'⟩ := attended
  cases hproceed
  simp only [hheld]
  split
  · rename_i hclosed hsome
    cases hsome
    obtain ⟨hphase, hdecided⟩ := haccounted.of_closed hclosed
    exact .parts events hdecided hphase hsessions
  · refine .serves events haccounted hheld ?_
    exact congrArg (· ++ [(c.run events).session]) hsessions

end Server

end BoundedTls.Program
