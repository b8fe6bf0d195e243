import BoundedTls.Proofs.Connection.Handles
import BoundedTls.Proofs.Connection.Transport
import BoundedTls.Proofs.Listener.Slots

/-!
# Accepting and dialling side by side

Two kinds of calls get a stream from the host and make it a connection: calls to accept and calls to
dial. Any number of them are under way at once, each may be dropped wherever it waits, and all of
them draw their handles from one source. Whatever becomes of a stream is put on record.

## Architecture

- **Streams**: what can become of a stream that a call was given (`Settled`).
- **Records**: a receipt for every stream that a call was given (`Receipt`).
- **Traffic**: a listener with its calls, the calls to dial, the source of handles and the
  receipts, with one total step function (`Traffic.step`).
- **Steps**: a step settles one stream or none (`Traffic.step_cases`).
-/

namespace BoundedTls

open BoundedTls.Address BoundedTls.Time

/-! ## What becomes of a stream -/

/-- The connection holds the stream, and is ready for a handshake with the settings of the
endpoint. -/
structure Connection.Fitted (c : Connection) (e : Endpoint) (role : Role) (handle : Handle)
    (stream : StreamId) : Prop where
  ready : c.phase = .ready
  plays : c.role = some role
  timer : c.timerState = some .idle
  named : c.handle = handle
  holds : c.rawStream = some stream
  supports : ∃ context, c.context = some context ∧ context.supports role = true
  settings : c.preparer = e.preparer ∧ c.provider = e.provider ∧ c.timeout = e.timeout

/-- A stream is held by a ready connection, or it is closed and an error of the transport is
returned. -/
inductive Settled (e : Endpoint) (role : Role) (handle : Handle) (stream : StreamId) :
    Except ListenerError Connection → List Effect → Prop where
  | held {c : Connection} {effects : List Effect} :
      c.Fitted e role handle stream → effects.filter Effect.isTransfer = [] →
      Settled e role handle stream (.ok c) effects
  | closed {cause : ConnectionError} {effects : List Effect} :
      effects.filter Effect.isTransfer = [.closed stream] →
      Settled e role handle stream (.error (.transport cause)) effects

/-- A new connection of an endpoint takes the stream, or the stream is closed. -/
theorem Endpoint.binding_settles (e : Endpoint) (now : Instant) (handle : Handle)
    (runtime : Runtime) (stream : StreamId) (role : Role) :
    let bound := (e.connection handle).1.initTransport now runtime stream role
    (bound.result = .ok () ∧ bound.connection.Fitted e role handle stream ∧
        bound.effects.filter Effect.isTransfer = []) ∨
      ∃ cause, bound.result = .error cause ∧
        bound.effects.filter Effect.isTransfer = [.closed stream] := by
  intro bound
  have hatomic := Connection.initTransport_atomic (e.connection handle).1 now runtime stream role
  cases hresult : bound.result with
  | ok =>
    obtain ⟨context, -, hsupports, hbound, htransfers⟩ := hatomic.bound hresult
    refine Or.inl ⟨rfl, ?_, htransfers⟩
    have hconnection :
        bound.connection = (e.connection handle).1.bound now runtime stream role context :=
      hbound
    rw [hconnection]
    exact ⟨rfl, rfl, rfl, rfl, rfl, ⟨context, rfl, hsupports⟩, rfl, rfl, rfl⟩
  | error cause => exact Or.inr ⟨cause, rfl, (hatomic.refused cause hresult).2⟩

/-- What goes with a stamp is no transfer. -/
theorem Endpoint.connection_transfers (e : Endpoint) (handle : Handle) :
    (e.connection handle).2.filter Effect.isTransfer = [] := rfl

theorem Endpoint.dialled_settled (e : Endpoint) (now : Instant) (handle : Handle)
    (stream : StreamId) (address : SocketAddress) :
    Settled e .client handle stream (e.dialled now handle stream address).1
      (e.dialled now handle stream address).2 := by
  unfold Endpoint.dialled
  rcases e.binding_settles now handle .current stream .client with
    ⟨hresult, hfitted, htransfers⟩ | ⟨cause, hresult, htransfers⟩
  · simp only [hresult]
    refine .held hfitted ?_
    simp [htransfers, e.connection_transfers, Effect.isTransfer]
  · simp only [hresult]
    refine .closed ?_
    simp [htransfers, e.connection_transfers]

namespace Listener

@[simp] theorem release_backlog (l : Listener) (permit : Permit) :
    (l.release permit).backlog = l.backlog := by
  unfold release
  split <;> rfl

@[simp] theorem release_endpoint (l : Listener) (permit : Permit) :
    (l.release permit).endpoint = l.endpoint := by
  unfold release
  split <;> rfl

/-- The answer of a call that was given a stream. -/
def Accepted.answer? : Accepted → Option (Except ListenerError Connection)
  | blocked => none
  | connection c _ _ => some (.ok c)
  | failed e => some (.error e)

/-- A call with a slot settles the stream of the client that has waited longest. -/
theorem receive_settled (l : Listener) (now : Instant) (handle : Handle) (permit : Permit)
    {w : Waiting} {backlog : List Waiting} (hbacklog : l.backlog = w :: backlog) :
    (∃ c effects, Settled l.endpoint .server handle w.stream (.ok c) effects ∧
        l.receive now handle permit =
          (.connection c w.peer permit, { l with backlog }, effects)) ∨
      ∃ e effects, Settled l.endpoint .server handle w.stream (.error e) effects ∧
        l.receive now handle permit =
          (.failed e, { l with backlog }.release permit, effects) := by
  unfold receive welcome
  simp only [hbacklog]
  rcases l.endpoint.binding_settles now handle .current w.stream .server with
    ⟨hresult, hfitted, htransfers⟩ | ⟨cause, hresult, htransfers⟩
  · simp only [hresult]
    refine Or.inl ⟨_, _, .held hfitted ?_, rfl⟩
    simp [htransfers, l.endpoint.connection_transfers, Effect.isTransfer]
  · simp only [hresult]
    refine Or.inr ⟨_, _, .closed ?_, rfl⟩
    simp [htransfers, l.endpoint.connection_transfers]

end Listener

/-! ## Records -/

/-- A call that gets a stream from the host. Calls of each kind are numbered. -/
inductive Caller where
  | accept (call : Nat)
  | dial (call : Nat)
deriving DecidableEq, Repr

def Caller.role : Caller → Role
  | accept _ => .server
  | dial _ => .client

/-- The record of a stream that a call was given, and of the answer that the call returned. -/
structure Receipt where
  caller : Caller
  stream : StreamId
  peer : SocketAddress
  /-- The settings that the stream was to have. -/
  endpoint : Endpoint
  handle : Handle
  answer : Except ListenerError Connection
  effects : List Effect

namespace Receipt

/-- The stream became a connection that fits the call, or it was closed. -/
def Proper (r : Receipt) : Prop :=
  Settled r.endpoint r.caller.role r.handle r.stream r.answer r.effects

/-- The client whose stream it was, if the stream was accepted. -/
def client? (r : Receipt) : Option Waiting :=
  match r.caller with
  | .accept _ => some ⟨r.stream, r.peer⟩
  | .dial _ => none

end Receipt

/-- What is known of the stream that a call was given: nothing if it was given none, or the error,
or the connection with its peer. The connection may have been dropped since. -/
abbrev Verdict :=
  Option (Except ListenerError (Option Connection × SocketAddress))

def Receipt.verdict (r : Receipt) : Verdict :=
  some (r.answer.map fun c => (some c, r.peer))

/-! ## Traffic -/

/-- What has become of a call to dial. -/
inductive Dial.Standing where
  | waiting
  | connected (connection : Connection)
  | failed (error : ListenerError)
  /-- Dropped while it waited. -/
  | dropped

/-- A call to dial, with the settings and the address that it was made with. -/
structure Dial where
  endpoint : Endpoint
  address : SocketAddress
  standing : Dial.Standing := .waiting

def Dial.verdict? (d : Dial) : Verdict :=
  match d.standing with
  | .connected c => some (.ok (some c, d.address))
  | .failed (.transport cause) => some (.error (.transport cause))
  | .waiting | .failed _ | .dropped => none

def Reception.Call.verdict? : Reception.Call → Verdict
  | accepted _ c peer => some (.ok (c, peer))
  | failed (.transport cause) => some (.error (.transport cause))
  | queued | granted _ | failed _ | dropped => none

/-- What a call to accept has learnt of the stream that it was given. -/
def Reception.verdict (r : Reception) (call : Nat) : Verdict :=
  r.calls[call]?.bind Call.verdict?

/-- The standing of a call to dial with this answer. -/
def Dial.standingOf : Except ListenerError Connection → Dial.Standing
  | .ok c => .connected c
  | .error e => .failed e

theorem Settled.verdict_dial {e : Endpoint} {role : Role} {handle : Handle} {stream : StreamId}
    {answer : Except ListenerError Connection} {effects : List Effect}
    (h : Settled e role handle stream answer effects) (d : Dial) :
    Dial.verdict? { d with standing := Dial.standingOf answer } =
      some (answer.map fun c => (some c, d.address)) := by
  cases h with
  | held => rfl
  | closed => rfl

/-- A listener with its calls, the calls to dial, and what both share. -/
structure Traffic where
  reception : Reception
  /-- The settings of the calls to dial that come next. -/
  endpoint : Endpoint
  dials : List Dial := []
  source : HandleSource
  /-- The handles that were drawn from the source so far, for whatever purpose. -/
  drawn : List Handle
  now : Instant
  /-- All clients that have come to the listener, in their order. -/
  arrived : List Waiting := []
  receipts : List Receipt := []

/-- An event at the listener gives a call the stream of a client. -/
def Reception.Event.isReceive : Reception.Event → Bool
  | receive _ _ _ => true
  | _ => false

/-- The client that comes with an event. -/
def Reception.Event.client? : Reception.Event → Option Waiting
  | arrive w => some w
  | _ => none

namespace Traffic

inductive Event where
  /-- Something at the listener; clients are taken by `receive` alone. -/
  | reception (e : Reception.Event)
  /-- A call to accept that holds a slot takes the client that has waited longest. -/
  | receive (call : Nat)
  | dial (address : SocketAddress)
  /-- The host has a stream for a call to dial. -/
  | connect (call : Nat) (stream : StreamId)
  | refuse (call : Nat) (fault : Fault)
  | giveUp (call : Nat)
  /-- A handle is drawn for another purpose. -/
  | draw
  | change (endpoint : Endpoint)
  | pass (nanos : Nat)

/-- Nothing has happened around a listener yet. Handles may have been drawn before. -/
def opening (l : Listener) (endpoint : Endpoint) (now : Instant) (earlier : Nat) : Traffic :=
  { reception := ⟨l, []⟩
    endpoint
    source := (({} : HandleSource).drawMany earlier).2
    drawn := (({} : HandleSource).drawMany earlier).1
    now }

/-- A stream is settled, under a handle of its own. -/
def settle (t : Traffic) (r : Receipt) : Traffic :=
  { t with
    source := t.source.draw.2
    drawn := t.drawn ++ [t.source.draw.1]
    receipts := t.receipts ++ [r] }

/-- A call with a slot settles the stream of the client that has waited longest, if one waits. -/
def receive (t : Traffic) (call : Nat) (permit : Permit) : Traffic :=
  let l := t.reception.listener
  let handle := t.source.draw.1
  let (accepted, _, effects) := l.receive t.now handle permit
  match l.backlog, accepted.answer? with
  | w :: _, some answer =>
    { t.settle ⟨.accept call, w.stream, w.peer, l.endpoint, handle, answer, effects⟩ with
      reception := t.reception.step (.receive call t.now handle) }
  | _, _ => t

/-- A call to dial settles the stream that the host has for it. -/
def connect (t : Traffic) (call : Nat) (d : Dial) (stream : StreamId) : Traffic :=
  let handle := t.source.draw.1
  let (answer, effects) := d.endpoint.dialled t.now handle stream d.address
  { t.settle ⟨.dial call, stream, d.address, d.endpoint, handle, answer, effects⟩ with
    dials := t.dials.set call { d with standing := Dial.standingOf answer } }

/-- What a call to dial does if it waits for its stream. -/
def onWaiting (t : Traffic) (call : Nat) (act : Dial → Traffic) : Traffic :=
  match t.dials[call]? with
  | some d =>
    match d.standing with
    | .waiting => act d
    | _ => t
  | none => t

/-- One event. One that does not fit its call changes nothing. -/
def step (t : Traffic) (e : Event) : Traffic :=
  match e with
  | .reception e =>
    if e.isReceive then t
    else { t with reception := t.reception.step e, arrived := t.arrived ++ e.client?.toList }
  | .receive call =>
    match t.reception.calls[call]? with
    | some (.granted permit) => t.receive call permit
    | _ => t
  | .dial address => { t with dials := t.dials ++ [{ endpoint := t.endpoint, address }] }
  | .connect call stream => t.onWaiting call fun d => t.connect call d stream
  | .refuse call fault =>
    t.onWaiting call fun d =>
      { t with dials := t.dials.set call { d with standing := .failed (.connect fault) } }
  | .giveUp call =>
    t.onWaiting call fun d => { t with dials := t.dials.set call { d with standing := .dropped } }
  | .draw => { t with source := t.source.draw.2, drawn := t.drawn ++ [t.source.draw.1] }
  | .change endpoint => { t with endpoint }
  | .pass nanos => { t with now := t.now + nanos }

def run (t : Traffic) (events : List Event) : Traffic :=
  events.foldl step t

/-- What the call has learnt of the stream that it was given. -/
def verdict (t : Traffic) : Caller → Verdict
  | .accept call => t.reception.verdict call
  | .dial call => t.dials[call]?.bind Dial.verdict?

/-- The settings that the call is made with. -/
def settings (t : Traffic) : Caller → Option Endpoint
  | .accept _ => some t.reception.listener.endpoint
  | .dial call => t.dials[call]?.map Dial.endpoint

/-- The receipts of one call. -/
def account (t : Traffic) (caller : Caller) : List Receipt :=
  t.receipts.filter fun r => r.caller = caller

@[simp] theorem run_nil (t : Traffic) : t.run [] = t := rfl

@[simp] theorem run_cons (t : Traffic) (e : Event) (events : List Event) :
    t.run (e :: events) = (t.step e).run events := rfl

/-! ## Steps, case by case -/

variable {t t' : Traffic} {e : Event}

/-- The receipt that a call to accept writes, with what it makes of the listener and the call. -/
structure Accepts (t : Traffic) (call : Nat) (r : Receipt) (l : Listener)
    (standing : Reception.Call) : Prop where
  caller : r.caller = .accept call
  proper : r.Proper
  endpoint : r.endpoint = t.reception.listener.endpoint
  handle : r.handle = t.source.draw.1
  /-- The client that has waited longest has left the listener, and nobody else has. -/
  backlog : t.reception.listener.backlog = r.client?.toList ++ l.backlog
  bound : l.endpoint = t.reception.listener.endpoint
  verdict : standing.verdict? = r.verdict
  event : t.reception.step (.receive call t.now r.handle) = t.reception.put l call standing

/-- The receipt that a call to dial writes, with what it makes of the call. -/
structure Dials (t : Traffic) (call : Nat) (d : Dial) (r : Receipt) (standing : Dial.Standing) :
    Prop where
  caller : r.caller = .dial call
  proper : r.Proper
  endpoint : r.endpoint = d.endpoint
  handle : r.handle = t.source.draw.1
  verdict : Dial.verdict? { d with standing } = r.verdict

/-- What a step can be. -/
inductive Step (t : Traffic) : Event → Traffic → Prop where
  /-- The event does not fit, or nobody waits to be accepted. -/
  | idle (e : Event) : Step t e t
  | reception {e : Reception.Event} : e.isReceive = false →
      Step t (.reception e)
        { t with reception := t.reception.step e, arrived := t.arrived ++ e.client?.toList }
  | accept {call : Nat} {permit : Permit} {r : Receipt} {l : Listener} {standing : Reception.Call} :
      t.reception.calls[call]? = some (.granted permit) → t.Accepts call r l standing →
      Step t (.receive call) { t.settle r with reception := t.reception.put l call standing }
  | dial (address : SocketAddress) :
      Step t (.dial address) { t with dials := t.dials ++ [{ endpoint := t.endpoint, address }] }
  | connect {call : Nat} {d : Dial} {r : Receipt} {standing : Dial.Standing} (stream : StreamId) :
      t.dials[call]? = some d → d.standing = .waiting → t.Dials call d r standing →
      Step t (.connect call stream)
        { t.settle r with dials := t.dials.set call { d with standing } }
  /-- A call to dial ends without a stream. -/
  | close {call : Nat} {d : Dial} {standing : Dial.Standing} (e : Event) :
      t.dials[call]? = some d → d.standing = .waiting →
      Dial.verdict? { d with standing } = none →
      Step t e { t with dials := t.dials.set call { d with standing } }
  | draw : Step t .draw
      { t with source := t.source.draw.2, drawn := t.drawn ++ [t.source.draw.1] }
  | change (endpoint : Endpoint) : Step t (.change endpoint) { t with endpoint }
  | pass (nanos : Nat) : Step t (.pass nanos) { t with now := t.now + nanos }

theorem step_receive {call : Nat} {permit : Permit}
    (hcall : t.reception.calls[call]? = some (.granted permit)) :
    Step t (.receive call) (t.receive call permit) := by
  have hevent (handle : Handle) : t.reception.step (.receive call t.now handle) =
      t.reception.receive call permit t.now handle := by
    simp [Reception.step, hcall]
  cases hbacklog : t.reception.listener.backlog with
  | nil =>
    have hidle : t.receive call permit = t := by simp [receive, hbacklog]
    rw [hidle]
    exact .idle _
  | cons w backlog =>
    rcases t.reception.listener.receive_settled t.now t.source.draw.1 permit hbacklog with
      ⟨c, effects, hsettled, hreceive⟩ | ⟨error, effects, hsettled, hreceive⟩
    · -- The call keeps its slot along with the connection.
      have hstep : t.receive call permit =
          { t.settle ⟨.accept call, w.stream, w.peer, t.reception.listener.endpoint,
              t.source.draw.1, .ok c, effects⟩ with
            reception := t.reception.put { t.reception.listener with backlog } call
              (.accepted (some permit) (some c) w.peer) } := by
        simp [receive, hbacklog, hreceive, Listener.Accepted.answer?, hevent, Reception.receive]
      rw [hstep]
      refine .accept hcall ⟨rfl, hsettled, rfl, rfl, hbacklog, rfl, rfl, ?_⟩
      simp [hevent, Reception.receive, hreceive]
    · -- The slot goes back with the error, and the clients behind stay where they are.
      have hstep : t.receive call permit =
          { t.settle ⟨.accept call, w.stream, w.peer, t.reception.listener.endpoint,
              t.source.draw.1, .error error, effects⟩ with
            reception := t.reception.put ({ t.reception.listener with backlog }.release permit)
              call (.failed error) } := by
        simp [receive, hbacklog, hreceive, Listener.Accepted.answer?, hevent, Reception.receive]
      rw [hstep]
      refine .accept hcall ⟨rfl, hsettled, rfl, rfl, ?_, ?_, ?_, ?_⟩
      · rw [hbacklog, Listener.release_backlog]; rfl
      · rw [Listener.release_endpoint]
      · cases hsettled; rfl
      · simp [hevent, Reception.receive, hreceive]

theorem step_onWaiting {call : Nat} {act : Dial → Traffic}
    (hact : ∀ d, t.dials[call]? = some d → d.standing = .waiting → Step t e (act d)) :
    Step t e (t.onWaiting call act) := by
  unfold onWaiting
  split
  · split
    · exact hact _ ‹_› ‹_›
    · exact .idle _
  · exact .idle _

theorem step_connect {call : Nat} {d : Dial} (stream : StreamId) (hcall : t.dials[call]? = some d)
    (hwaiting : d.standing = .waiting) :
    Step t (.connect call stream) (t.connect call d stream) := by
  have hsettled := d.endpoint.dialled_settled t.now t.source.draw.1 stream d.address
  exact .connect stream hcall hwaiting ⟨rfl, hsettled, rfl, rfl, hsettled.verdict_dial d⟩

/-- **Every event makes one of the steps.** -/
theorem step_is_step (t : Traffic) (e : Event) : Step t e (t.step e) := by
  cases e with
  | reception e =>
    cases hreceive : e.isReceive with
    | true =>
      have hidle : t.step (.reception e) = t := by simp [step, hreceive]
      rw [hidle]
      exact .idle _
    | false =>
      simpa [step, hreceive] using Step.reception hreceive
  | receive call =>
    simp only [step]
    split
    · exact step_receive ‹_›
    · exact .idle _
  | dial address => exact .dial address
  | connect call stream =>
    apply step_onWaiting
    intro d hcall hwaiting
    exact step_connect stream hcall hwaiting
  | refuse call fault | giveUp call =>
    apply step_onWaiting
    intro d hcall hwaiting
    exact .close _ hcall hwaiting rfl
  | draw => exact .draw
  | change endpoint => exact .change endpoint
  | pass nanos => exact .pass nanos

end Traffic

end BoundedTls
