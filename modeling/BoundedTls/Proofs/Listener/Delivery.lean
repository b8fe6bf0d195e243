import BoundedTls.Proofs.Listener.Traffic

/-!
# Streams are neither lost nor mixed up

A call that was given a stream returns it in one connection, or closes it and returns one error. A
client that waits stays where it is until a call takes its stream, whoever else is dropped, and
clients are taken in the order of their arrival.

## Architecture

- **Accounts**: what a call knows agrees with what is on record of it (`Answered`).
- **Records**: the receipts agree with the clients, the calls, the settings and the handles
  (`Traffic.Recorded`), and every step keeps it so.
- **Every traffic**: what a record says of the streams at any time (`Traffic.Orderly`).
-/

namespace BoundedTls

open BoundedTls.Address BoundedTls.Time

/-! ## Accounts -/

/-- A call goes on knowing what it knows. Only the connection that it has returned may be
dropped. -/
inductive Verdict.Keeps : Verdict → Verdict → Prop where
  | same (v : Verdict) : Keeps v v
  | dropped (c : Connection) (peer : SocketAddress) :
      Keeps (some (.ok (some c, peer))) (some (.ok (none, peer)))

/-- What a call knows is on record, once. -/
inductive Answered : Verdict → List Receipt → Prop where
  | unanswered : Answered none []
  | answered (r : Receipt) : Answered r.verdict [r]
  /-- The connection that was returned has been dropped since. -/
  | dropped {r : Receipt} {c : Connection} :
      r.answer = .ok c → Answered (some (.ok (none, r.peer))) [r]

theorem Answered.keeps {v v' : Verdict} {account : List Receipt} (h : Answered v account)
    (hkeeps : v.Keeps v') : Answered v' account := by
  cases hkeeps with
  | same => exact h
  | dropped c peer =>
    generalize hv : (some (.ok (some c, peer)) : Verdict) = v at h
    cases h with
    | unanswered => cases hv
    | answered r =>
      cases hanswer : r.answer with
      | ok =>
        simp only [Receipt.verdict, hanswer, Except.map, Option.some.injEq, Except.ok.injEq,
          Prod.mk.injEq] at hv
        rw [hv.2]
        exact .dropped hanswer
      | error => simp [Receipt.verdict, hanswer, Except.map] at hv
    | dropped => cases hv

/-- A new call knows nothing. -/
theorem bind_append_of_none {α : Type} {f : α → Verdict} {x : α} (h : f x = none) (xs : List α)
    (i : Nat) : (xs ++ [x])[i]?.bind f = xs[i]?.bind f := by
  rw [List.getElem?_append]
  split
  · rfl
  · rename_i hnew
    rw [List.getElem?_eq_none (Nat.le_of_not_lt hnew)]
    cases i - xs.length with
    | zero => exact h
    | succ => rfl

/-! ## Calls to accept -/

namespace Reception

variable {r : Reception} {e : Event}

theorem verdict_put {call : Nat} {old : Call} (hcall : r.calls[call]? = some old) (l : Listener)
    (new : Call) (other : Nat) :
    (r.put l call new).verdict other = if other = call then new.verdict? else r.verdict other := by
  have hmade : call < r.calls.length := (List.getElem?_eq_some_iff.mp hcall).1
  by_cases hsame : other = call
  · simp [verdict, hsame, hmade]
  · have hother : call ≠ other := fun heq => hsame heq.symm
    simp [verdict, hsame, hother]

/-- A call that goes from one standing to another knows what it has known. -/
theorem keeps_put {call : Nat} {old new : Call} (hcall : r.calls[call]? = some old) (l : Listener)
    (hkeeps : Verdict.Keeps old.verdict? new.verdict?) (other : Nat) :
    Verdict.Keeps (r.verdict other) ((r.put l call new).verdict other) := by
  rw [verdict_put hcall]
  split
  · rename_i hsame
    have hold : r.verdict other = old.verdict? := by simp [verdict, hsame, hcall]
    rw [hold]
    exact hkeeps
  · exact .same _

/-- Where no call takes a client, calls learn nothing of streams. -/
theorem keeps_step (hquiet : e.isReceive = false) (other : Nat) :
    Verdict.Keeps (r.verdict other) ((r.step e).verdict other) := by
  cases e with
  | call =>
    have hsame : (r.step .call).verdict other = r.verdict other :=
      bind_append_of_none rfl r.calls other
    rw [hsame]
    exact .same _
  | receive => cases hquiet
  | arrive => exact .same _
  -- A call that waits for its slot or its client knows nothing, before and after.
  | grant call =>
    simp only [step]
    split
    · rename_i hqueued
      unfold Reception.grant
      split
      · exact .same _
      · refine keeps_put hqueued _ ?_ other
        exact .same _
    · exact .same _
  | refuse call fault =>
    simp only [step]
    split
    · rename_i hgranted
      refine keeps_put hgranted _ ?_ other
      exact .same _
    · exact .same _
  | giveUp call =>
    simp only [step]
    split
    · rename_i hqueued
      refine keeps_put hqueued _ ?_ other
      exact .same _
    · rename_i hgranted
      refine keeps_put hgranted _ ?_ other
      exact .same _
    · exact .same _
  -- The slot may go before the connection does; what the call has returned stays.
  | dropPermit call =>
    simp only [step]
    split
    · rename_i permit c peer haccepted
      refine keeps_put haccepted _ ?_ other
      exact .same _
    · exact .same _
  | dropConnection call =>
    simp only [step]
    split
    · rename_i permit c peer haccepted
      refine keeps_put haccepted _ ?_ other
      exact .dropped c peer
    · exact .same _

/-- Where no call takes a client, clients come and none goes. -/
theorem listener_step (hquiet : e.isReceive = false) :
    (r.step e).listener.endpoint = r.listener.endpoint ∧
      (r.step e).listener.backlog = r.listener.backlog ++ e.client?.toList := by
  cases e with
  | receive => cases hquiet
  | call => exact ⟨rfl, (List.append_nil _).symm⟩
  | arrive w => exact ⟨rfl, rfl⟩
  | grant call =>
    simp only [step]
    split
    · unfold Reception.grant
      split
      · exact ⟨rfl, (List.append_nil _).symm⟩
      · rename_i permit l hgrant
        obtain ⟨-, -, hl⟩ := Listener.grant_eq_some hgrant
        rw [put_listener, hl]
        exact ⟨rfl, (List.append_nil _).symm⟩
    · exact ⟨rfl, (List.append_nil _).symm⟩
  | refuse call fault | giveUp call | dropPermit call | dropConnection call =>
    simp only [step]
    split <;> simp [Reception.refuse, Listener.refuse, Event.client?]

end Reception

/-! ## Records -/

namespace Traffic

variable {t t' : Traffic} {e : Event}

/-- The records agree with the clients, the calls, the settings and the handles. -/
structure Recorded (t : Traffic) : Prop where
  proper : ∀ r ∈ t.receipts, r.Proper
  answered : ∀ caller, Answered (t.verdict caller) (t.account caller)
  order : t.arrived = t.receipts.filterMap Receipt.client? ++ t.reception.listener.backlog
  settings : ∀ r ∈ t.receipts, t.settings r.caller = some r.endpoint
  issued : HandleSource.Issued t.drawn t.source
  handles : (t.receipts.map Receipt.handle).Sublist t.drawn

/-- A call to dial goes on to another standing, and to no other settings. -/
theorem dials_set {call : Nat} {d : Dial} (hcall : t.dials[call]? = some d)
    (standing : Dial.Standing) (other : Nat) :
    ((t.dials.set call { d with standing })[other]?).map Dial.endpoint =
        t.dials[other]?.map Dial.endpoint ∧
      ((t.dials.set call { d with standing })[other]?).bind Dial.verdict? =
        if other = call then Dial.verdict? { d with standing }
        else t.dials[other]?.bind Dial.verdict? := by
  obtain ⟨hmade, rfl⟩ := List.getElem?_eq_some_iff.mp hcall
  by_cases hsame : other = call
  · simp [hsame, hmade]
  · have hother : call ≠ other := fun heq => hsame heq.symm
    simp [hsame, hother]

/-- The settings that a call was made with do not change. -/
theorem settings_step (s : Step t e t') {caller : Caller} {endpoint : Endpoint}
    (h : t.settings caller = some endpoint) : t'.settings caller = some endpoint := by
  cases caller with
  | accept call =>
    cases s with
    | reception hquiet => simpa [settings, (Reception.listener_step hquiet).1] using h
    | accept _ haccepts => simpa [settings, haccepts.bound] using h
    | _ => exact h
  | dial call =>
    cases s with
    | dial address =>
      obtain ⟨d, hcall, rfl⟩ := Option.map_eq_some_iff.mp h
      have hmade : call < t.dials.length := (List.getElem?_eq_some_iff.mp hcall).1
      simp [settings, List.getElem?_append_left hmade, hcall]
    | connect _ hcall => exact (dials_set hcall _ call).1.trans h
    | close _ hcall => exact (dials_set hcall _ call).1.trans h
    | _ => exact h

/-- A step that settles no stream keeps the records. -/
theorem Recorded.quiet (h : t.Recorded) (s : Step t e t') (hreceipts : t'.receipts = t.receipts)
    {new : List Waiting} (harrived : t'.arrived = t.arrived ++ new)
    (hbacklog : t'.reception.listener.backlog = t.reception.listener.backlog ++ new)
    (hkeeps : ∀ caller, Verdict.Keeps (t.verdict caller) (t'.verdict caller))
    (hissued : HandleSource.Issued t'.drawn t'.source) (hdrawn : t.drawn.Sublist t'.drawn) :
    t'.Recorded where
  proper := by rw [hreceipts]; exact h.proper
  answered := by
    intro caller
    have haccount : t'.account caller = t.account caller := by rw [account, hreceipts]; rfl
    rw [haccount]
    exact (h.answered caller).keeps (hkeeps caller)
  order := by rw [hreceipts, harrived, hbacklog, h.order, List.append_assoc]
  settings := by
    intro r hr
    rw [hreceipts] at hr
    exact settings_step s (h.settings r hr)
  issued := hissued
  handles := by rw [hreceipts]; exact h.handles.trans hdrawn

/-- A step that settles a stream puts it on record. -/
theorem Recorded.settle (h : t.Recorded) (s : Step t e t') {r : Receipt}
    (hreceipts : t'.receipts = t.receipts ++ [r]) (hproper : r.Proper)
    (harrived : t'.arrived = t.arrived)
    (hbacklog : t.reception.listener.backlog =
      r.client?.toList ++ t'.reception.listener.backlog)
    (hsettings : t.settings r.caller = some r.endpoint)
    (hunanswered : t.verdict r.caller = none) (hanswered : t'.verdict r.caller = r.verdict)
    (hothers : ∀ caller, caller ≠ r.caller → t'.verdict caller = t.verdict caller)
    (hhandle : r.handle = t.source.draw.1) (hsource : t'.source = t.source.draw.2)
    (hdrawn : t'.drawn = t.drawn ++ [t.source.draw.1]) : t'.Recorded where
  proper := by
    intro r' hr'
    rw [hreceipts] at hr'
    rcases List.mem_append.mp hr' with hold | hnew
    · exact h.proper r' hold
    · rw [List.mem_singleton.mp hnew]
      exact hproper
  answered := by
    intro caller
    by_cases hsame : caller = r.caller
    · -- The call knew nothing of a stream, so its account was empty.
      have hempty : t.account r.caller = [] := by
        have hanswer := h.answered r.caller
        rw [hunanswered] at hanswer
        generalize t.account r.caller = account at *
        generalize hv : (none : Verdict) = v at hanswer
        cases hanswer <;> simp_all [Receipt.verdict]
      have haccount : t'.account r.caller = [r] := by
        rw [account, hreceipts, List.filter_append]
        simpa [account] using hempty
      rw [hsame, hanswered, haccount]
      exact .answered r
    · have haccount : t'.account caller = t.account caller := by
        have hother : ¬ r.caller = caller := fun heq => hsame heq.symm
        rw [account, hreceipts, List.filter_append]
        simp [account, hother]
      rw [haccount, hothers caller hsame]
      exact h.answered caller
  order := by
    rw [hreceipts, harrived, h.order, hbacklog, List.filterMap_append, List.append_assoc]
    cases hclient : r.client? <;> simp [hclient]
  settings := by
    intro r' hr'
    rw [hreceipts] at hr'
    apply settings_step s
    rcases List.mem_append.mp hr' with hold | hnew
    · exact h.settings r' hold
    · rw [List.mem_singleton.mp hnew]
      exact hsettings
  issued := by rw [hdrawn, hsource]; exact h.issued.draw
  handles := by
    rw [hreceipts, hdrawn, List.map_append, ← hhandle]
    exact h.handles.append (List.Sublist.refl _)

/-- What calls to dial know after one of them, which waited, has another standing. -/
theorem verdict_dial {call : Nat} {d : Dial} (hcall : t.dials[call]? = some d)
    (standing : Dial.Standing) (other : Nat) :
    Traffic.verdict { t with dials := t.dials.set call { d with standing } } (.dial other) =
      if other = call then Dial.verdict? { d with standing } else t.verdict (.dial other) :=
  (dials_set hcall standing other).2

theorem verdict_of_waiting {call : Nat} {d : Dial} (hcall : t.dials[call]? = some d)
    (hwaiting : d.standing = .waiting) : t.verdict (.dial call) = none := by
  simp [verdict, hcall, Dial.verdict?, hwaiting]

/-- **Every step keeps the records.** -/
theorem recorded_step (s : Step t e t') (h : t.Recorded) : t'.Recorded := by
  -- The settings are kept by the step as a whole, so it is kept beside its cases.
  have hs := s
  have hnobody : ∀ xs : List Waiting, xs = xs ++ [] := fun xs => (List.append_nil xs).symm
  cases s with
  | idle => exact h
  | change | pass =>
    exact h.quiet hs rfl (hnobody _) (hnobody _) (fun _ => .same _) h.issued (List.Sublist.refl _)
  | draw =>
    exact h.quiet hs rfl (hnobody _) (hnobody _) (fun _ => .same _) h.issued.draw
      (List.sublist_append_left _ _)
  | reception hquiet =>
    refine h.quiet hs rfl rfl (Reception.listener_step hquiet).2 (fun caller => ?_) h.issued
      (List.Sublist.refl _)
    cases caller with
    | accept call => exact Reception.keeps_step hquiet call
    | dial => exact .same _
  | dial address =>
    refine h.quiet hs rfl (hnobody _) (hnobody _) (fun caller => ?_) h.issued (List.Sublist.refl _)
    cases caller with
    | accept => exact .same _
    | dial other =>
      have hsame : (t.dials ++ [{ endpoint := t.endpoint, address }])[other]?.bind Dial.verdict? =
          t.dials[other]?.bind Dial.verdict? :=
        bind_append_of_none rfl t.dials other
      simp only [verdict, hsame]
      exact .same _
  | @close call d standing _ hcall hwaiting hnone =>
    refine h.quiet hs rfl (hnobody _) (hnobody _) (fun caller => ?_) h.issued (List.Sublist.refl _)
    cases caller with
    | accept => exact .same _
    | dial other =>
      rw [verdict_dial hcall]
      split
      · rename_i hsame
        rw [hnone, hsame, verdict_of_waiting hcall hwaiting]
        exact .same _
      · exact .same _
  -- The two steps that settle a stream differ in whom they ask for the settings, and in whether a
  -- client leaves the listener.
  | @accept call permit r l standing hcall haccepts =>
    have hsettings : t.settings r.caller = some r.endpoint := by
      rw [haccepts.caller, haccepts.endpoint]
      rfl
    refine h.settle hs rfl haccepts.proper rfl haccepts.backlog hsettings ?_ ?_ ?_
      haccepts.handle rfl rfl
    · rw [haccepts.caller]
      simp [verdict, Reception.verdict, hcall, Reception.Call.verdict?]
    · rw [haccepts.caller, ← haccepts.verdict]
      simp [verdict, Reception.verdict_put hcall]
    · intro caller hother
      rw [haccepts.caller] at hother
      cases caller with
      | accept other =>
        have hdiffers : other ≠ call := fun heq => hother (congrArg _ heq)
        simp [verdict, Reception.verdict_put hcall, hdiffers]
      | dial => rfl
  | @connect call d r standing stream hcall hwaiting hdials =>
    have hsettings : t.settings r.caller = some r.endpoint := by
      rw [hdials.caller, hdials.endpoint]
      simp [settings, hcall]
    have hbacklog : t.reception.listener.backlog =
        r.client?.toList ++ t.reception.listener.backlog := by
      simp [Receipt.client?, hdials.caller]
    refine h.settle hs rfl hdials.proper rfl hbacklog hsettings ?_ ?_ ?_ hdials.handle rfl rfl
    · rw [hdials.caller]
      exact verdict_of_waiting hcall hwaiting
    · rw [hdials.caller, ← hdials.verdict]
      exact (verdict_dial hcall standing call).trans (if_pos rfl)
    · intro caller hother
      rw [hdials.caller] at hother
      cases caller with
      | accept => rfl
      | dial other =>
        have hdiffers : other ≠ call := fun heq => hother (congrArg _ heq)
        exact (verdict_dial hcall standing other).trans (if_neg hdiffers)

/-- The slots of the listener balance, whatever the calls to dial do. -/
theorem balanced_step {limit : Nat} (s : Step t e t') (h : t.reception.Balanced limit) :
    t'.reception.Balanced limit := by
  cases s with
  | reception => exact Reception.balanced_step h _
  | accept _ haccepts =>
    show (t.reception.put _ _ _).Balanced limit
    rw [← haccepts.event]
    exact Reception.balanced_step h _
  | _ => exact h

/-- Receipts are written one after the other, and none is taken back. -/
theorem receipts_step (s : Step t e t') : t.receipts <+: t'.receipts := by
  cases s with
  | accept | connect => exact List.prefix_append _ _
  | _ => exact List.prefix_refl _

theorem receipts_run (t : Traffic) (events : List Event) :
    t.receipts <+: (t.run events).receipts := by
  induction events generalizing t with
  | nil => exact List.prefix_refl _
  | cons e events ih => exact (receipts_step (step_is_step t e)).trans (ih _)

/-! ## Every traffic -/

theorem opening_recorded (l : Listener) (endpoint : Endpoint) (now : Instant) (earlier : Nat)
    (hnobody : l.backlog = []) : (opening l endpoint now earlier).Recorded where
  proper := by
    intro r hr
    cases hr
  answered := by
    rintro (call | call)
    · exact .unanswered
    · exact .unanswered
  order := hnobody.symm
  settings := by
    intro r hr
    cases hr
  issued := HandleSource.issued_drawMany earlier
  handles := List.nil_sublist _

/-- What the records say of the streams. -/
structure Orderly (t : Traffic) (bound : Endpoint) (limit : Nat) : Prop where
  /-- Every stream that a call was given is held by one ready connection, with the role and the
  settings that it was to have, or it is closed and the call has returned an error. -/
  proper : ∀ r ∈ t.receipts, r.Proper
  /-- A call was given one stream if it has returned a connection or an error of the transport, and
  none otherwise. -/
  answered : ∀ caller, Answered (t.verdict caller) (t.account caller)
  /-- Clients are taken in the order of their arrival, and those that were not taken wait. -/
  order : t.arrived = t.receipts.filterMap Receipt.client? ++ t.reception.listener.backlog
  /-- Later streams are put on record later. -/
  grows : ∀ later, t.receipts <+: (t.run later).receipts
  /-- A call that is dropped takes no client with it. -/
  patient : ∀ call, let t' := t.step (.reception (.giveUp call))
    t'.reception.listener.backlog = t.reception.listener.backlog ∧ t'.arrived = t.arrived ∧
      t'.receipts = t.receipts
  /-- What is accepted has the settings that the listener was bound with. -/
  accepted : ∀ r ∈ t.receipts, ∀ call, r.caller = .accept call → r.endpoint = bound
  /-- What is dialled has the settings that the call was made with. -/
  dialled : ∀ r ∈ t.receipts, ∀ call, r.caller = .dial call →
    ∃ d, t.dials[call]? = some d ∧ r.endpoint = d.endpoint
  /-- Every stream has a handle of its own among those that were drawn. -/
  handles : (t.receipts.map Receipt.handle).Sublist t.drawn
  /-- Handles are the same only if all 64-bit words were drawn between them. -/
  apart : ∀ i j handle, t.drawn[i]? = some handle → t.drawn[j]? = some handle →
    i % UInt64.size = j % UInt64.size
  slots : t.reception.listener.available + t.reception.permits + t.reception.granted = limit
  /-- A call that fails or is dropped holds no slot any more. -/
  givesBack : t.reception.GivesBack

theorem Recorded.orderly (h : t.Recorded) {limit : Nat} (hbalanced : t.reception.Balanced limit) :
    t.Orderly t.reception.listener.endpoint limit where
  proper := h.proper
  answered := h.answered
  order := h.order
  grows := t.receipts_run
  patient := by
    intro call t'
    have hquiet : (Reception.Event.giveUp call).isReceive = false := rfl
    obtain ⟨-, hbacklog⟩ := Reception.listener_step (r := t.reception) hquiet
    refine ⟨?_, ?_, rfl⟩
    · exact hbacklog.trans (List.append_nil _)
    · exact List.append_nil _
  accepted := by
    intro r hr call hcaller
    have hsettings := h.settings r hr
    rw [hcaller] at hsettings
    exact (Option.some.inj hsettings).symm
  dialled := by
    intro r hr call hcaller
    have hsettings := h.settings r hr
    rw [hcaller] at hsettings
    obtain ⟨d, hcall, hendpoint⟩ := Option.map_eq_some_iff.mp hsettings
    exact ⟨d, hcall, hendpoint.symm⟩
  handles := h.handles
  apart := fun _ _ _ hi hj => h.issued.apart hi hj
  slots := by
    rw [Nat.add_assoc, ← t.reception.holding_eq]
    exact hbalanced.total
  givesBack := hbalanced.gives_back

/-- A listener is bound with the settings that it is given, and nobody waits yet. -/
theorem bind_opens {id : Nat} {host : SocketAddress → Except Fault SocketAddress}
    {settings : Config.ListenerSettings} {endpoint : Endpoint} {l : Listener}
    {effects : List Effect}
    (h : Listener.bind id host settings endpoint = .listening l effects) :
    l.endpoint = endpoint ∧ l.backlog = [] := by
  have hbinds := h ▸ Listener.bind_binds id host settings endpoint
  cases hbinds with
  | listening => exact ⟨rfl, rfl⟩

/-- **Streams are neither lost nor mixed up.** However the calls to accept on a bound listener and
the calls to dial interleave with arriving clients, permits that come back, changes of the settings
and one another, and wherever any of them is dropped: every stream that a call was given is held by
one connection, ready for the handshake that was asked for, or is closed and has made one error;
clients are taken in the order of their arrival, and by no call that is dropped; and slots that are
not held are free. -/
theorem streams_are_neither_lost_nor_mixed_up {id : Nat}
    {host : SocketAddress → Except Fault SocketAddress} {settings : Config.ListenerSettings}
    {endpoint : Endpoint} {l : Listener} {effects : List Effect}
    (hbound : Listener.bind id host settings endpoint = .listening l effects)
    (dialling : Endpoint) (now : Instant) (earlier : Nat) (events : List Event) :
    ((opening l dialling now earlier).run events).Orderly endpoint
      settings.maxConnections.toNat := by
  obtain ⟨hendpoint, hnobody⟩ := bind_opens hbound
  have hkept : ∀ t : Traffic, t.Recorded →
      t.reception.Balanced settings.maxConnections.toNat →
      t.settings (.accept 0) = some endpoint →
      (t.run events).Recorded ∧ (t.run events).reception.Balanced settings.maxConnections.toNat ∧
        (t.run events).settings (.accept 0) = some endpoint := by
    induction events with
    | nil => exact fun t hrecorded hbalanced hsettings => ⟨hrecorded, hbalanced, hsettings⟩
    | cons e events ih =>
      intro t hrecorded hbalanced hsettings
      have hstep := step_is_step t e
      exact ih _ (recorded_step hstep hrecorded) (balanced_step hstep hbalanced)
        (settings_step hstep hsettings)
  obtain ⟨hrecorded, hbalanced, hsettings⟩ := hkept _
    (opening_recorded l dialling now earlier hnobody) (Reception.bind_balanced hbound)
    (congrArg some hendpoint)
  rw [← Option.some.inj hsettings]
  exact hrecorded.orderly hbalanced

/-- One slot, and a provider that has nothing for the first handle. A call that holds the slot is
dropped, the next one fails with the first client, and the third returns the second client; a call
to dial fails for want of a provider. -/
theorem streams_are_neither_lost_nor_mixed_up_of_two :
    let settings : Config.ListenerSettings := { bindAddress := "127.0.0.1:0", maxConnections := 1 }
    let context : Tls.Context := { server := some { chain := [] } }
    let endpoint : Endpoint :=
      { provider := some ⟨fun h => if h = ⟨1⟩ then none else some context, false⟩ }
    let l : Listener := ⟨0, ⟨localhost, 40000, 0⟩, endpoint, 1, 1, []⟩
    let events : List Event :=
      [.reception .call, .reception (.grant 0), .reception .call,
        .reception (.arrive ⟨⟨0⟩, ⟨localhost, 50000, 0⟩⟩),
        .reception (.arrive ⟨⟨1⟩, ⟨localhost, 50001, 0⟩⟩),
        .reception (.giveUp 0), .reception (.grant 1), .receive 1,
        .reception .call, .reception (.grant 2), .receive 2,
        .dial ⟨localhost, 40000, 0⟩, .connect 0 ⟨2⟩]
    let t := (opening l {} 0 0).run events
    Listener.bind 0 (fun _ => .ok l.address) settings endpoint =
        .listening l [.log (.bound ⟨localhost, 40000, 0⟩ 1 endpoint.timeout.millis64)] ∧
      (t.receipts.map fun r => (r.caller, r.stream, r.answer.toOption.isSome)) =
        [(.accept 1, ⟨0⟩, false), (.accept 2, ⟨1⟩, true), (.dial 0, ⟨2⟩, false)] ∧
      t.Orderly endpoint 1 := by
  have hbinds (e : Endpoint) :
      Listener.bind 0 (fun _ => .ok ⟨localhost, 40000, 0⟩)
          { bindAddress := "127.0.0.1:0", maxConnections := 1 } e =
        .listening ⟨0, ⟨localhost, 40000, 0⟩, e, 1, 1, []⟩
          [.log (.bound ⟨localhost, 40000, 0⟩ 1 e.timeout.millis64)] :=
    rfl
  refine ⟨hbinds _, ?_, streams_are_neither_lost_nor_mixed_up (hbinds _) {} 0 0 _⟩
  decide +kernel

end Traffic

end BoundedTls
