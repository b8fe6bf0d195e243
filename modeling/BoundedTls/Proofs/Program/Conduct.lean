import BoundedTls.Proofs.Connection.Settings
import BoundedTls.Proofs.Program.Service

/-!
# How the server treats a client

A client is secured and echoed, or it is turned away with one warning and not a byte is read or
written. Which of the two it is, is decided once; then the connection is shut down, and then there
is nothing left to do.

## Architecture

- **Verdicts**: the events that tell a client that was secured from one that was turned away
  (`Log.Event.isVerdict`).
- **Operations**: what each operation of a session comes to, and what none of them touches
  (`Session.Keeps`).
- **Accounts**: what was done for a client, by what its session is in the middle of
  (`Client.Accounted`). Every event keeps the account.
-/

namespace BoundedTls

open BoundedTls.Address BoundedTls.Time

/-- The event tells that a client was secured or turned away. -/
def Log.Event.isVerdict : Log.Event → Bool
  | handshakeComplete _ | refused _ _ _ => true
  | _ => false

namespace Program

/-! ## Verdicts -/

def verdictsIn (effects : List Effect) : List Log.Event :=
  (effects.filterMap Effect.told?).filter Log.Event.isVerdict

@[simp] theorem verdictsIn_append (effects later : List Effect) :
    verdictsIn (effects ++ later) = verdictsIn effects ++ verdictsIn later := by
  rw [verdictsIn, List.filterMap_append, List.filter_append]
  rfl

theorem start_quiet {c : Connection} (h : c.Shaped) (hready : c.phase = .ready) (now : Instant) :
    verdictsIn (c.start now).effects = [] := by
  obtain ⟨role, -, htold⟩ := Connection.start_told h hready now
  rw [verdictsIn, htold]
  rfl

theorem beginShutdown_quiet (c : Connection) (lateEnded : Bool) :
    verdictsIn (c.beginShutdown lateEnded).2.2 = [] := by
  have hreleased : verdictsIn (Connection.releaseStream c.channel).2 = [] := by
    unfold Connection.releaseStream
    split <;> rfl
  unfold Connection.beginShutdown
  rw [verdictsIn_append, hreleased]
  -- A late result is told of, but it is no verdict.
  cases c.abandoned with
  | none => rfl
  | some task => cases lateEnded <;> rfl

theorem endShutdown_quiet (c : Connection) (pending : Option StreamId)
    (farewell : Except Fault Unit) : verdictsIn (c.endShutdown pending farewell).2 = [] := by
  unfold Connection.endShutdown
  cases pending with
  | none => rfl
  | some stream => cases farewell <;> rfl

/-- A race that is decided has secured a stream, and the connection tells so; or it has failed, and
no stream is there. -/
theorem poll_judged {c : Connection} {now : Instant} (h : c.Shaped)
    (hphase : c.phase = .handshaking) {task : HandshakeTask} {ended : Option TaskResult}
    {timerFirst : Bool} {o : Connection.Outcome Unit}
    (hpoll : c.poll task now ended timerFirst = some o) :
    (∃ stream, o.result = .ok () ∧ o.connection.securedStream = some stream ∧
        o.effects = [.log (.handshakeComplete c.handle)]) ∨
      ∃ e, o.result = .error e ∧ o.connection.securedStream = none ∧
        verdictsIn o.effects = [] := by
  obtain ⟨_, _, context, deadline, _, _, _, hchannel, htimer, _⟩ := h.of_handshaking hphase
  -- The stream is away as long as no task gives it back.
  have haway : c.securedStream = none := by
    simp [Connection.securedStream, hchannel, Channel.secure?]
  rcases Connection.poll_eq_some htimer hpoll with ⟨result, -, rfl⟩ | ⟨-, rfl⟩
  · cases result with
    | secured stream =>
      refine Or.inl ⟨stream, rfl, ?_, rfl⟩
      show (c.channel.map fun channel => channel.establish stream).bind Channel.secure? =
        some stream
      rw [hchannel]
      rfl
    | fault fault => exact Or.inr ⟨_, rfl, haway, rfl⟩
    | broken cause => exact Or.inr ⟨_, rfl, haway, rfl⟩
  · exact Or.inr ⟨_, rfl, haway, rfl⟩

/-! ## Operations -/

namespace Session

variable {s : Session} {now : Instant}

/-- A session with a ready connection begins its handshake. -/
theorem begin_of_ready (h : s.connection.Shaped) (hready : s.connection.phase = .ready)
    (now : Instant) :
    ∃ task connection effects,
      s.begin now = ({ s with connection, standing := .securing task }, effects) ∧
        connection.Shaped ∧ connection.phase = .handshaking ∧
        connection.handle = s.connection.handle ∧ verdictsIn effects = [] := by
  obtain ⟨role, context, stream, -, hchannel, -, hok, hracing⟩ :=
    Connection.start_of_ready h hready now
  have hbegun : s.begin now =
      ({ s with
          connection := s.connection.racing now context
          standing := .securing ⟨stream, (Channel.mk context (.raw stream)).side role⟩ },
        (s.connection.start now).effects) := by
    simp only [begin, hok, hracing]
  exact ⟨_, _, _, hbegun, Connection.racing_shaped h hready hchannel, rfl, rfl,
    start_quiet h hready now⟩

/-- What a look at a handshake comes to. -/
inductive Looks (s : Session) (now : Instant) (ended : Option TaskResult) :
    Session × List Effect → Prop where
  /-- The task has not ended, and its deadline has not passed. -/
  | waits {deadline : Instant} :
      s.connection.timer = some ⟨deadline, .armed⟩ → ended = none → now < roundUp deadline →
      Looks s now ended (s, [])
  | secured {connection : Connection} (stream : StreamId) :
      connection.handle = s.connection.handle →
      Looks s now ended ({ s with connection, standing := .echoing stream .reading },
        [.log (.handshakeComplete s.connection.handle)])
  /-- The connection tells how its handshake has ended, and the server whom it turns away. -/
  | refused {connection : Connection} {ending : List Effect} (e : ConnectionError) :
      connection.handle = s.connection.handle → verdictsIn ending = [] →
      Looks s now ended ({ s with connection, standing := .leaving },
        ending ++ [.log (.refused s.connection.handle s.peer e)])

theorem learn_secured {stream : StreamId} (h : s.connection.securedStream = some stream) :
    s.learn (.resolved .callback (.ok ())) =
      ({ s with standing := .echoing stream .reading }, []) := by
  unfold learn
  rw [h]
  rfl

theorem learn_refused (h : s.connection.securedStream = none) (e : ConnectionError) :
    s.learn (.resolved .callback (.error e)) =
      ({ s with standing := .leaving }, [.log (.refused s.connection.handle s.peer e)]) := by
  unfold learn
  rw [h]
  rfl

theorem looks (h : s.connection.Shaped) (hphase : s.connection.phase = .handshaking)
    (task : HandshakeTask) (now : Instant) (ended : Option TaskResult) (timerFirst : Bool) :
    s.Looks now ended (s.look task now ended timerFirst) := by
  obtain ⟨_, _, _, deadline, _, _, _, _, htimer, _⟩ := h.of_handshaking hphase
  unfold look
  cases hpoll : s.connection.poll task now ended timerFirst with
  | none =>
    obtain ⟨hruns, hearly⟩ := (Connection.poll_eq_none_iff htimer).mp hpoll
    exact .waits htimer hruns hearly
  | some o =>
    have hhandle := Connection.poll_handle _ hpoll
    rcases poll_judged h hphase hpoll with
      ⟨stream, hok, hstream, heffects⟩ | ⟨e, herror, hnone, hquiet⟩
    · have hlearnt := learn_secured (s := { s with connection := o.connection }) hstream
      simp only [hok, hlearnt, heffects]
      exact .secured stream hhandle
    · have hlearnt := learn_refused (s := { s with connection := o.connection }) hnone e
      simp only [herror, hlearnt, hhandle]
      exact .refused e hhandle hquiet

/-- Echoing goes on or is over, and nothing of it is a verdict. -/
theorem relay_cases (s : Session) (stream : StreamId) (echo : Echo) (event : Echo.Event) :
    ∃ standing effects, s.relay stream echo event = ({ s with standing }, effects) ∧
      verdictsIn effects = [] ∧
      (standing = .leaving ∨ standing = .echoing stream (echo.step event)) := by
  unfold relay
  cases echo.step event with
  | ended => exact ⟨_, [], rfl, rfl, Or.inl rfl⟩
  | readFailed fault => exact ⟨_, _, rfl, rfl, Or.inl rfl⟩
  | writeFailed fault => exact ⟨_, _, rfl, rfl, Or.inl rfl⟩
  | reading => exact ⟨_, [], rfl, rfl, Or.inr rfl⟩
  | writing rest => exact ⟨_, [], rfl, rfl, Or.inr rfl⟩

/-- A shutdown that is over leaves its phase on the connection. -/
theorem part_eq (s : Session) (pending : Option StreamId) (farewell : Except Fault Unit) :
    ∃ connection effects,
      s.part pending farewell = ({ s with connection, standing := .closed }, effects) ∧
        connection.phase = .shutdown ∧ connection.handle = s.connection.handle ∧
        verdictsIn effects = [] :=
  ⟨_, _, rfl, rfl, rfl, endShutdown_quiet _ _ _⟩

/-- A shutdown waits for a farewell, or is over at once. -/
theorem leave_cases (s : Session) (lateEnded : Bool) :
    ∃ connection effects, connection.handle = s.connection.handle ∧ verdictsIn effects = [] ∧
      ((∃ stream, s.leave lateEnded =
          ({ s with connection, standing := .parting stream }, effects)) ∨
        connection.phase = .shutdown ∧
          s.leave lateEnded = ({ s with connection, standing := .closed }, effects)) := by
  have hquiet := beginShutdown_quiet s.connection lateEnded
  have hhandle : (s.connection.beginShutdown lateEnded).2.1.handle = s.connection.handle := rfl
  unfold leave
  generalize s.connection.beginShutdown lateEnded = begun at hquiet hhandle ⊢
  obtain ⟨pending, connection, effects⟩ := begun
  cases pending with
  | some stream => exact ⟨connection, effects, hhandle, hquiet, Or.inl ⟨stream, rfl⟩⟩
  | none =>
    refine ⟨_, _, ?_, ?_, Or.inr ⟨?_, rfl⟩⟩
    · exact hhandle
    · rw [verdictsIn_append, hquiet]
      rfl
    · rfl

/-- What an event leaves of a session: the client, its slot and the identity of its connection. -/
structure Keeps (s s' : Session) : Prop where
  handle : s'.connection.handle = s.connection.handle
  peer : s'.peer = s.peer
  permit : s'.permit = s.permit

theorem learn_keeps (s : Session) (r : Report) : Keeps s (s.learn r).1 := by
  unfold learn
  split
  · split <;> exact ⟨rfl, rfl, rfl⟩
  · exact ⟨rfl, rfl, rfl⟩

theorem begin_keeps (s : Session) (now : Instant) : Keeps s (s.begin now).1 := by
  have hhandle := Connection.start_handle s.connection now
  unfold begin
  simp only
  split
  · exact ⟨hhandle, rfl, rfl⟩
  · obtain ⟨hlearnt, hpeer, hpermit⟩ :=
      learn_keeps { s with connection := (s.connection.start now).connection } (.refused ‹_›)
    exact ⟨hlearnt.trans hhandle, hpeer, hpermit⟩

theorem look_keeps (s : Session) (task : HandshakeTask) (now : Instant)
    (ended : Option TaskResult) (timerFirst : Bool) :
    Keeps s (s.look task now ended timerFirst).1 := by
  unfold look
  split
  · exact ⟨rfl, rfl, rfl⟩
  · rename_i o hpoll
    obtain ⟨hlearnt, hpeer, hpermit⟩ :=
      learn_keeps { s with connection := o.connection } (.resolved .callback o.result)
    exact ⟨hlearnt.trans (Connection.poll_handle _ hpoll), hpeer, hpermit⟩

/-- **An event changes neither the client of a session nor its slot.** -/
theorem step_keeps (s : Session) (e : Event) : Keeps s (s.step e).1 := by
  unfold step
  split
  · exact begin_keeps s _
  · exact look_keeps s _ _ _ _
  · obtain ⟨standing, effects, hrelay, -⟩ := s.relay_cases _ _ _
    rw [hrelay]
    exact ⟨rfl, rfl, rfl⟩
  · obtain ⟨connection, effects, hhandle, -, ⟨stream, hleave⟩ | ⟨-, hleave⟩⟩ := s.leave_cases _
    · rw [hleave]
      exact ⟨hhandle, rfl, rfl⟩
    · rw [hleave]
      exact ⟨hhandle, rfl, rfl⟩
  · obtain ⟨connection, effects, hpart, -, hhandle, -⟩ := s.part_eq _ _
    rw [hpart]
    exact ⟨hhandle, rfl, rfl⟩
  · exact ⟨rfl, rfl, rfl⟩

end Session

/-! ## Accounts -/

namespace Client

variable {c c' : Client} {e : Session.Event}

def verdicts (c : Client) : List Log.Event :=
  verdictsIn c.done

/-- The client was neither secured nor warned of, and nothing was read or written. -/
structure Undecided (c : Client) : Prop where
  verdicts : c.verdicts = []
  read : c.read = []
  written : c.written = []

/-- The client was secured, without a warning, and gets back what it sends. -/
structure Served (c : Client) : Prop where
  verdicts : c.verdicts = [.handshakeComplete c.handle]
  behind : c.written <+: c.read

/-- The server has warned of the client once, by its handle and its peer address, and has neither
read nor written. -/
structure TurnedAway (c : Client) : Prop where
  verdicts : ∃ e, c.verdicts = [.refused c.handle c.peer e]
  read : c.read = []
  written : c.written = []

def Decided (c : Client) : Prop :=
  c.Served ∨ c.TurnedAway

/-- What is known of a client, by what its session is in the middle of. -/
inductive Accounted (c : Client) : Prop where
  | accepted :
      c.session.standing = .accepted → c.session.connection.Shaped →
      c.session.connection.phase = .ready → c.Undecided → Accounted c
  | securing (task : HandshakeTask) :
      c.session.standing = .securing task → c.session.connection.Shaped →
      c.session.connection.phase = .handshaking → c.Undecided → Accounted c
  | echoing (stream : StreamId) (echo : Echo) :
      c.session.standing = .echoing stream echo → c.Served →
      Echoing.KeepsUp ⟨echo, c.read, c.written⟩ → Accounted c
  | leaving : c.session.standing = .leaving → c.Decided → Accounted c
  | parting (stream : StreamId) : c.session.standing = .parting stream → c.Decided → Accounted c
  | closed :
      c.session.standing = .closed → c.session.connection.phase = .shutdown → c.Decided →
      Accounted c

/-- What decides a client is the same for both. -/
structure Same (c c' : Client) : Prop where
  handle : c'.handle = c.handle
  peer : c'.peer = c.peer
  verdicts : c'.verdicts = c.verdicts
  read : c'.read = c.read
  written : c'.written = c.written

theorem Undecided.same (h : c.Undecided) (hsame : Same c c') : c'.Undecided :=
  ⟨hsame.verdicts.trans h.verdicts, hsame.read.trans h.read, hsame.written.trans h.written⟩

theorem Decided.same (h : c.Decided) (hsame : Same c c') : c'.Decided := by
  obtain ⟨hhandle, hpeer, hverdicts, hread, hwritten⟩ := hsame
  rcases h with hserved | ⟨⟨e, hrefused⟩, hnothing, hsilent⟩
  · refine Or.inl ⟨?_, ?_⟩
    · rw [hverdicts, hhandle, hserved.verdicts]
    · rw [hwritten, hread]
      exact hserved.behind
  · refine Or.inr ⟨⟨e, ?_⟩, hread.trans hnothing, hwritten.trans hsilent⟩
    rw [hverdicts, hhandle, hpeer, hrefused]

/-- A client to whom this was done, with a session that has come to this. -/
def goOn (c : Client) (connection : Connection) (standing : Session.Standing)
    (effects : List Effect) : Client :=
  { c with session := { c.session with connection, standing }, done := c.done ++ effects }

theorem goOn_verdicts (c : Client) (connection : Connection) (standing : Session.Standing)
    (effects : List Effect) :
    (c.goOn connection standing effects).verdicts = c.verdicts ++ verdictsIn effects :=
  verdictsIn_append c.done effects

theorem goOn_same {connection : Connection} {effects : List Effect}
    (hhandle : connection.handle = c.session.connection.handle) (hquiet : verdictsIn effects = [])
    (standing : Session.Standing) : Same c (c.goOn connection standing effects) where
  handle := hhandle
  peer := rfl
  verdicts := by rw [goOn_verdicts, hquiet, List.append_nil]
  read := rfl
  written := rfl

/-- An event that the session does not wait for changes nothing. -/
theorem step_of_misfit (h : e.fits c.session.standing = false) : c.step e = c := by
  have hnothing : c.session.step e = (c.session, []) ∧ c.session.brings e = [] ∧
      c.session.yields e = [] := by
    unfold Session.step Session.brings Session.yields
    cases hstanding : c.session.standing with
    | closed => exact ⟨rfl, rfl, rfl⟩
    | accepted | securing | echoing | leaving | parting =>
      rw [hstanding] at h
      -- The one event that fits is out of the question.
      cases e <;> first | exact ⟨rfl, rfl, rfl⟩ | cases h
  obtain ⟨hstep, hbrings, hyields⟩ := hnothing
  simp only [step, hstep, hbrings, hyields, List.append_nil]

/-- Only echoing reads and writes. -/
theorem step_of_session {connection : Connection} {standing : Session.Standing}
    {effects : List Effect} (hnot : ∀ stream echo, c.session.standing ≠ .echoing stream echo)
    (h : c.session.step e = ({ c.session with connection, standing }, effects)) :
    c.step e = c.goOn connection standing effects := by
  have hnothing : c.session.brings e = [] ∧ c.session.yields e = [] := by
    unfold Session.brings Session.yields
    cases hstanding : c.session.standing with
    | echoing stream echo => exact absurd hstanding (hnot stream echo)
    | accepted | securing | leaving | parting | closed => exact ⟨rfl, rfl⟩
  obtain ⟨hbrings, hyields⟩ := hnothing
  simp only [step, h, hbrings, hyields, List.append_nil, goOn]

theorem accounted_begin (hstanding : c.session.standing = .accepted)
    (hshaped : c.session.connection.Shaped) (hready : c.session.connection.phase = .ready)
    (h : c.Undecided) (now : Instant) : (c.step (.begin now)).Accounted := by
  obtain ⟨task, connection, effects, hbegun, hracing, hphase, hhandle, hquiet⟩ :=
    Session.begin_of_ready hshaped hready now
  have hstep : c.session.step (.begin now) = c.session.begin now := by
    simp only [Session.step, hstanding]
  rw [step_of_session (by simp [hstanding]) (hstep.trans hbegun)]
  exact .securing task rfl hracing hphase (h.same (goOn_same hhandle hquiet _))

theorem accounted_look {task : HandshakeTask} (hstanding : c.session.standing = .securing task)
    (hshaped : c.session.connection.Shaped) (hphase : c.session.connection.phase = .handshaking)
    (h : c.Undecided) (now : Instant) (ended : Option TaskResult) (timerFirst : Bool) :
    (c.step (.look now ended timerFirst)).Accounted := by
  have hlooks := Session.looks hshaped hphase task now ended timerFirst
  have hstep : c.session.step (.look now ended timerFirst) =
      c.session.look task now ended timerFirst := by
    simp only [Session.step, hstanding]
  have hnot : ∀ stream echo, c.session.standing ≠ .echoing stream echo := by simp [hstanding]
  generalize c.session.look task now ended timerFirst = looked at hlooks hstep
  cases hlooks with
  | waits =>
    rw [step_of_session hnot hstep]
    exact .securing task hstanding hshaped hphase (h.same (goOn_same rfl rfl _))
  | secured stream hhandle =>
    rw [step_of_session hnot hstep]
    -- Nothing was read or written before, so the echo begins even.
    refine .echoing stream .reading rfl ⟨?_, ?_⟩ (.of_eq ?_)
    · rw [goOn_verdicts, h.verdicts]
      show [Log.Event.handshakeComplete _] = [.handshakeComplete _]
      rw [← hhandle]
      rfl
    · show c.written <+: c.read
      rw [h.written]
      exact List.nil_prefix
    · show c.read = c.written ++ []
      rw [h.read, h.written]
      rfl
  | refused e hhandle hquiet =>
    rw [step_of_session hnot hstep]
    refine .leaving rfl (Or.inr ⟨⟨e, ?_⟩, h.read, h.written⟩)
    rw [goOn_verdicts, h.verdicts]
    rw [verdictsIn_append, hquiet]
    show [Log.Event.refused _ _ e] = [.refused _ _ e]
    rw [← hhandle]
    rfl

theorem accounted_stream {stream : StreamId} {echo : Echo}
    (hstanding : c.session.standing = .echoing stream echo) (hserved : c.Served)
    (hkeepsUp : Echoing.KeepsUp ⟨echo, c.read, c.written⟩) (event : Echo.Event) :
    (c.step (.stream event)).Accounted := by
  obtain ⟨standing, effects, hrelay, hquiet, hnext⟩ := c.session.relay_cases stream echo event
  have hstep : c.step (.stream event) =
      { c.goOn c.session.connection standing effects with
        read := c.read ++ echo.brings event
        written := c.written ++ echo.yields event } := by
    simp only [step, Session.step, Session.brings, Session.yields, hstanding, hrelay, goOn]
  -- The echo keeps up whether it goes on or not.
  have hkept : Echoing.KeepsUp
      ⟨echo.step event, c.read ++ echo.brings event, c.written ++ echo.yields event⟩ :=
    Echoing.keepsUp_step hkeepsUp event
  have hstill : (c.step (.stream event)).Served := by
    rw [hstep]
    refine ⟨?_, hkept.behind⟩
    show verdictsIn (c.done ++ effects) = [.handshakeComplete c.handle]
    rw [verdictsIn_append, hquiet, List.append_nil]
    exact hserved.verdicts
  rcases hnext with rfl | rfl
  · exact .leaving (by rw [hstep]; rfl) (Or.inl hstill)
  · refine .echoing stream (echo.step event) (by rw [hstep]; rfl) hstill ?_
    rw [hstep]
    exact hkept

theorem accounted_leave (hstanding : c.session.standing = .leaving) (h : c.Decided)
    (lateEnded : Bool) : (c.step (.leave lateEnded)).Accounted := by
  obtain ⟨connection, effects, hhandle, hquiet, hleave⟩ := c.session.leave_cases lateEnded
  have hstep : c.session.step (.leave lateEnded) = c.session.leave lateEnded := by
    simp only [Session.step, hstanding]
  have hnot : ∀ stream echo, c.session.standing ≠ .echoing stream echo := by simp [hstanding]
  rcases hleave with ⟨stream, hparts⟩ | ⟨hphase, hclosed⟩
  · rw [step_of_session hnot (hstep.trans hparts)]
    exact .parting stream rfl (h.same (goOn_same hhandle hquiet _))
  · rw [step_of_session hnot (hstep.trans hclosed)]
    exact .closed rfl hphase (h.same (goOn_same hhandle hquiet _))

theorem accounted_farewell {stream : StreamId} (hstanding : c.session.standing = .parting stream)
    (h : c.Decided) (answer : Except Fault Unit) : (c.step (.farewell answer)).Accounted := by
  obtain ⟨connection, effects, hpart, hphase, hhandle, hquiet⟩ :=
    c.session.part_eq (some stream) answer
  have hstep : c.session.step (.farewell answer) = c.session.part (some stream) answer := by
    simp only [Session.step, hstanding]
  rw [step_of_session (by simp [hstanding]) (hstep.trans hpart)]
  exact .closed rfl hphase (h.same (goOn_same hhandle hquiet _))

/-- **Every event keeps the account of a client.** -/
theorem accounted_step (h : c.Accounted) (e : Session.Event) : (c.step e).Accounted := by
  cases hfits : e.fits c.session.standing with
  | false =>
    rw [step_of_misfit hfits]
    exact h
  | true =>
    -- One kind of event fits each standing.
    cases h with
    | accepted hstanding hshaped hready hundecided =>
      rw [hstanding] at hfits
      cases e with
      | begin now => exact accounted_begin hstanding hshaped hready hundecided now
      | _ => cases hfits
    | securing task hstanding hshaped hphase hundecided =>
      rw [hstanding] at hfits
      cases e with
      | look now ended timerFirst =>
        exact accounted_look hstanding hshaped hphase hundecided now ended timerFirst
      | _ => cases hfits
    | echoing stream echo hstanding hserved hkeepsUp =>
      rw [hstanding] at hfits
      cases e with
      | stream event => exact accounted_stream hstanding hserved hkeepsUp event
      | _ => cases hfits
    | leaving hstanding hdecided =>
      rw [hstanding] at hfits
      cases e with
      | leave lateEnded => exact accounted_leave hstanding hdecided lateEnded
      | _ => cases hfits
    | parting stream hstanding hdecided =>
      rw [hstanding] at hfits
      cases e with
      | farewell answer => exact accounted_farewell hstanding hdecided answer
      | _ => cases hfits
    | closed hstanding =>
      rw [hstanding] at hfits
      cases e <;> cases hfits

/-- Whoever has got past the handshake is decided. -/
theorem Accounted.decided (h : c.Accounted) (haccepted : c.session.standing ≠ .accepted)
    (hsecuring : ∀ task, c.session.standing ≠ .securing task) : c.Decided := by
  cases h with
  | accepted hstanding => exact absurd hstanding haccepted
  | securing task hstanding => exact absurd hstanding (hsecuring task)
  | echoing _ _ _ hserved => exact Or.inl hserved
  | leaving _ hdecided | parting _ _ hdecided | closed _ _ hdecided => exact hdecided

/-- Whoever there is nothing left to do for is decided, and the connection is shut down. -/
theorem Accounted.of_closed (h : c.Accounted) (hclosed : c.session.standing = .closed) :
    c.session.connection.phase = .shutdown ∧ c.Decided := by
  cases h with
  | closed _ hphase hdecided => exact ⟨hphase, hdecided⟩
  | accepted hother | securing _ hother | echoing _ _ hother | leaving hother | parting _ hother =>
    cases hclosed.symm.trans hother

/-- **Nobody is left undecided.** A look decides a handshake whose task has ended or whose deadline
has passed. -/
theorem Accounted.look_decides (h : c.Accounted) {task : HandshakeTask}
    (hstanding : c.session.standing = .securing task) :
    ∃ deadline, c.session.connection.timer = some ⟨deadline, .armed⟩ ∧
      ∀ now ended timerFirst, ended.isSome = true ∨ roundUp deadline ≤ now →
        (c.step (.look now ended timerFirst)).Decided := by
  cases h with
  | securing _ hsecuring hshaped hphase hundecided =>
    obtain ⟨_, _, _, deadline, _, _, _, _, htimer, _⟩ := hshaped.of_handshaking hphase
    refine ⟨deadline, htimer, ?_⟩
    intro now ended timerFirst hdue
    have hlooks := Session.looks hshaped hphase task now ended timerFirst
    have hstep : (c.step (.look now ended timerFirst)).session =
        (c.session.look task now ended timerFirst).1 := by
      simp only [step, Session.step, hstanding]
    have hkept := accounted_look hstanding hshaped hphase hundecided now ended timerFirst
    generalize c.session.look task now ended timerFirst = looked at hlooks hstep
    cases hlooks with
    | waits hother hruns hearly =>
      cases htimer.symm.trans hother
      rcases hdue with hended | hpassed
      · rw [hruns] at hended
        cases hended
      · exact absurd hearly (Nat.not_lt.mpr hpassed)
    | secured => exact hkept.decided (by simp [hstep]) (by simp [hstep])
    | refused => exact hkept.decided (by simp [hstep]) (by simp [hstep])
  | accepted hother | echoing _ _ hother | leaving hother | parting _ hother | closed hother =>
    cases hstanding.symm.trans hother

end Client

end Program

end BoundedTls
