import BoundedTls.Proofs.Connection.Ledger

/-!
# Taking a stream

An idle connection takes a stream once it has a context for its role, and not before: it may have
to be asked several times, with other settings in between. A refusal has one of three causes, is
told by the first that applies, and leaves no trace in the connection, so the way to the binding
that succeeds does not matter, only the settings at its end do.

## Architecture

- **Causes**: why a connection does not take a stream (`Connection.Refusal`), and what the provider
  has to say about it (`Connection.Supplied`).
- **Bindings**: `Connection.Atomic` says all that one binding does, for each of its ends.
- **Histories**: bindings and settings in any order (`Connection.serveAll`). Bindings that are
  refused can be left out of a history.
-/

namespace BoundedTls

open BoundedTls.Time

/-- The effect is a call of one of the owner's handlers. -/
def Effect.isCall : Effect → Bool
  | asked _ _ | prepared _ _ _ => true
  | log _ | armed _ | spawned _ | aborted _ | notified _ | closed _ => false

namespace Connection

variable {c : Connection} {now : Instant} {runtime : Runtime} {stream : StreamId} {role : Role}

/-! ## Causes -/

/-- The provider of the connection has this context for its handle. -/
def Supplied (c : Connection) (context : Tls.Context) : Prop :=
  ∃ provider, c.provider = some provider ∧ provider.supply c.handle = some context

/-- Why a connection does not take a stream: the first cause that applies. -/
inductive Refusal (c : Connection) (role : Role) : ConnectionError → Prop where
  | wrongPhase : c.phase ≠ .idle → Refusal c role (.wrongPhase c.phase)
  | noProvider : c.phase = .idle → c.provider = none → Refusal c role .noProvider
  /-- The provider has nothing for the handle, or nothing that serves the role. -/
  | unusableContext {provider : TlsProvider} :
      c.phase = .idle → c.provider = some provider →
      (∀ context, provider.supply c.handle = some context → context.supports role = false) →
      Refusal c role .unusableContext

/-- A connection has one cause at most. -/
theorem Refusal.unique {e e' : ConnectionError} (h : c.Refusal role e) (h' : c.Refusal role e') :
    e = e' := by
  cases h with
  | wrongPhase hphase =>
    cases h' with
    | wrongPhase => rfl
    | noProvider hidle | unusableContext hidle => exact absurd hidle hphase
  | noProvider hidle hnone =>
    cases h' with
    | wrongPhase hphase => exact absurd hidle hphase
    | noProvider => rfl
    | unusableContext _ hsome =>
      rw [hnone] at hsome
      cases hsome
  | unusableContext hidle hsome =>
    cases h' with
    | wrongPhase hphase => exact absurd hidle hphase
    | noProvider _ hnone =>
      rw [hnone] at hsome
      cases hsome
    | unusableContext => rfl

/-- Without a cause the provider has a usable context. -/
theorem Refusal.not_supplied {e : ConnectionError} (h : c.Refusal role e) (hidle : c.phase = .idle)
    {context : Tls.Context} (hsupplied : c.Supplied context) : context.supports role = false := by
  obtain ⟨provider, hprovider, hsupply⟩ := hsupplied
  cases h with
  | wrongPhase hphase => exact absurd hidle hphase
  | noProvider _ hnone =>
    rw [hnone] at hprovider
    cases hprovider
  | unusableContext _ hsome hnothing =>
    rw [hsome] at hprovider
    cases hprovider
    exact hnothing context hsupply

/-! ## Bindings -/

/-- The connection with a runtime, a stream, a context that serves its role, and a timer that was
never armed. -/
def bound (c : Connection) (now : Instant) (runtime : Runtime) (stream : StreamId) (role : Role)
    (context : Tls.Context) : Connection :=
  { c with
    channel := some ⟨context, .raw stream⟩
    timer := some (Timer.new now)
    runtime := some runtime
    role := some role
    phase := .ready }

/-- The calls of a connection for a context: none unless it is idle, and then one of its provider,
if it has one. -/
def calls (c : Connection) : List Effect :=
  if c.phase = .idle then c.provider.toList.map fun p => .asked c.handle p.observed else []

/-- What a binding does, told by its result: all of it, or nothing but closing the stream. -/
structure Atomic (c : Connection) (now : Instant) (runtime : Runtime) (stream : StreamId)
    (role : Role) (o : Outcome Unit) : Prop where
  error_iff : ∀ e, o.result = .error e ↔ c.Refusal role e
  ok_iff : o.result = .ok () ↔
    c.phase = .idle ∧ ∃ context, c.Supplied context ∧ context.supports role = true
  calls : o.effects.filter Effect.isCall = c.calls
  /-- A refusal leaves every part of the connection as it was. -/
  refused : ∀ e, o.result = .error e →
    o.connection = c ∧ o.effects.filter Effect.isTransfer = [.closed stream]
  bound : o.result = .ok () → ∃ context, c.Supplied context ∧ context.supports role = true ∧
    o.connection = c.bound now runtime stream role context ∧
      o.effects.filter Effect.isTransfer = []

/-- A refusal for the first cause that applies. -/
theorem atomic_of_refusal {o : Outcome Unit} {e : ConnectionError} (h : c.Refusal role e)
    (hresult : o.result = .error e) (hconnection : o.connection = c)
    (hcalls : o.effects.filter Effect.isCall = c.calls)
    (htransfers : o.effects.filter Effect.isTransfer = [.closed stream]) :
    c.Atomic now runtime stream role o where
  error_iff := by
    intro e'
    rw [hresult, Except.error.injEq]
    constructor
    · rintro rfl
      exact h
    · exact h.unique
  ok_iff := by
    rw [hresult]
    constructor
    · intro hok
      cases hok
    · rintro ⟨hidle, context, hsupplied, hsupports⟩
      rw [h.not_supplied hidle hsupplied] at hsupports
      cases hsupports
  calls := hcalls
  refused := fun _ _ => ⟨hconnection, htransfers⟩
  bound := by
    intro hok
    rw [hresult] at hok
    cases hok

/-- **A binding is atomic.** -/
theorem initTransport_atomic (c : Connection) (now : Instant) (runtime : Runtime)
    (stream : StreamId) (role : Role) :
    c.Atomic now runtime stream role (c.initTransport now runtime stream role) := by
  unfold initTransport
  -- The causes are looked for in the order in which they apply.
  by_cases hidle : c.phase = .idle
  · rw [if_neg (not_not_intro hidle)]
    cases hprovider : c.provider with
    | none =>
      refine atomic_of_refusal (.noProvider hidle hprovider) rfl rfl ?_ rfl
      simp [calls, hidle, hprovider, Effect.isCall]
    | some provider =>
      have hcalls : c.calls = [.asked c.handle provider.observed] := by
        simp [calls, hidle, hprovider]
      simp only
      cases hcontext : (provider.supply c.handle).filter fun context => context.supports role with
      | none =>
        refine atomic_of_refusal (.unusableContext hidle hprovider ?_) rfl rfl ?_ rfl
        · intro context hsupply
          simpa [hsupply, Option.filter] using hcontext
        · rw [hcalls]
          rfl
      | some context =>
        obtain ⟨hsupply, hsupports⟩ := Option.filter_eq_some_iff.mp hcontext
        have hsupplied : c.Supplied context := ⟨provider, hprovider, hsupply⟩
        refine ⟨fun e => ?_, ?_, ?_, ?_, fun _ => ⟨context, hsupplied, hsupports, ?_, rfl⟩⟩
        · constructor
          · intro herror
            cases herror
          · intro hrefusal
            rw [hrefusal.not_supplied hidle hsupplied] at hsupports
            cases hsupports
        · exact ⟨fun _ => ⟨hidle, context, hsupplied, hsupports⟩, fun _ => rfl⟩
        · rw [hcalls]
          rfl
        · intro e herror
          cases herror
        · simp [Connection.bound, hprovider]
  · rw [if_pos hidle]
    refine atomic_of_refusal (.wrongPhase hidle) rfl rfl ?_ rfl
    simp [calls, hidle, Effect.isCall]

/-! ## Histories -/

/-- What the owner of a connection asks of it until it has taken a stream. -/
inductive Request where
  | set (setting : Setting)
  | bind (now : Instant) (runtime : Runtime) (stream : StreamId) (role : Role)

def Request.isSetting : Request → Bool
  | set _ => true
  | bind _ _ _ _ => false

/-- The connection after a request. -/
def serve (c : Connection) : Request → Connection
  | .set s => (s.put c).1
  | .bind now runtime stream role => (c.initTransport now runtime stream role).connection

def serveAll (c : Connection) (requests : List Request) : Connection :=
  requests.foldl serve c

/-- No binding among the requests succeeds. -/
def Futile (c : Connection) (requests : List Request) : Prop :=
  ∀ before now runtime stream role after,
    requests = before ++ .bind now runtime stream role :: after →
    ∃ e, ((c.serveAll before).initTransport now runtime stream role).result = .error e

@[simp] theorem serveAll_nil (c : Connection) : c.serveAll [] = c := rfl

@[simp] theorem serveAll_cons (c : Connection) (r : Request) (requests : List Request) :
    c.serveAll (r :: requests) = (c.serve r).serveAll requests := rfl

theorem Futile.tail {r : Request} {requests : List Request} (h : c.Futile (r :: requests)) :
    (c.serve r).Futile requests := by
  rintro before now runtime stream role after rfl
  exact h (r :: before) now runtime stream role after rfl

/-- Bindings that are refused can be left out of a history. -/
theorem serveAll_of_futile {requests : List Request} (h : c.Futile requests) :
    c.serveAll requests = c.serveAll (requests.filter Request.isSetting) := by
  -- Every request makes another connection, so the connection is general.
  induction requests generalizing c with
  | nil => rfl
  | cons r requests ih =>
    cases r with
    | set s =>
      have hkept : (Request.set s :: requests).filter Request.isSetting =
          .set s :: requests.filter Request.isSetting := rfl
      rw [hkept, serveAll_cons, serveAll_cons, ih h.tail]
    | bind now runtime stream role =>
      have hleft : (Request.bind now runtime stream role :: requests).filter Request.isSetting =
          requests.filter Request.isSetting := rfl
      obtain ⟨e, herror⟩ := h [] now runtime stream role requests rfl
      have hsame : c.serve (.bind now runtime stream role) = c :=
        ((initTransport_atomic c now runtime stream role).refused e herror).1
      rw [hleft, serveAll_cons, ih h.tail, hsame]

/-- **A binding is made at once or not at all.** Whatever the state of a connection, a binding is
refused for the first cause that applies, with every part of the connection as it was, or it makes
a ready connection of an idle one; the provider is asked once if its answer matters, and not at all
otherwise. So after any history of settings and refused bindings, a binding ends as it would have
after the settings alone; and if there were no settings, as if it had been the first. -/
theorem binding_is_all_or_nothing (c : Connection) (now : Instant) (runtime : Runtime)
    (stream : StreamId) (role : Role) :
    c.Atomic now runtime stream role (c.initTransport now runtime stream role) ∧
      (∀ requests, c.Futile requests →
        (c.serveAll requests).initTransport now runtime stream role =
          (c.serveAll (requests.filter Request.isSetting)).initTransport now runtime stream role) ∧
      ∀ requests, c.Futile requests → (∀ r ∈ requests, r.isSetting = false) →
        (c.serveAll requests).initTransport now runtime stream role =
          c.initTransport now runtime stream role := by
  refine ⟨initTransport_atomic c now runtime stream role, ?_, ?_⟩
  · intro requests hfutile
    rw [serveAll_of_futile hfutile]
  · intro requests hfutile hbindings
    have hnone : requests.filter Request.isSetting = [] := by
      apply List.filter_eq_nil_iff.mpr
      intro r hr
      simp [hbindings r hr]
    rw [serveAll_of_futile hfutile, hnone, serveAll_nil]

end Connection

end BoundedTls
