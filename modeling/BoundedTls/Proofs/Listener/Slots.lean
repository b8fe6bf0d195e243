import BoundedTls.Proofs.Listener.Binding
import BoundedTls.Proofs.Listener.Reception

/-!
# Slots are conserved

A slot passes from the listener to a call that waits for a client, from there to the permit that
the call returns, and back to the listener from each of these places. Free slots, calls that hold
one and permits alive always add up to the limit that the listener was bound with.
-/

namespace BoundedTls

open BoundedTls.Address BoundedTls.Time

namespace Reception

/-! ## Counting slots -/

/-- The call or its answer holds a slot. -/
def Call.holds (c : Call) : Bool :=
  c.permit?.isSome

/-- Replacing an element changes a count by what the two elements count. -/
theorem countP_replace {α : Type} {p : α → Bool} {xs : List α} {k : Nat} {old : α}
    (h : xs[k]? = some old) (new : α) :
    (xs.set k new).countP p + (if p old then 1 else 0) =
      xs.countP p + (if p new then 1 else 0) := by
  obtain ⟨hk, hold⟩ := List.getElem?_eq_some_iff.mp h
  have hcounted : (if p old then 1 else 0) ≤ xs.countP p := hold ▸ List.boole_getElem_le_countP hk
  rw [List.countP_set hk, hold]
  omega

/-- A slot is held by a call in progress or by a permit that is alive. -/
theorem holding_eq (r : Reception) : r.calls.countP Call.holds = r.permits + r.granted := by
  unfold permits granted
  induction r.calls with
  | nil => rfl
  | cons c calls ih =>
    have hone : (if c.holds then 1 else 0) =
        (if c.isHolding then 1 else 0) + (if c.isGranted then 1 else 0) := by
      cases c with
      | accepted permit connection peer => cases permit <;> rfl
      | _ => rfl
    simp only [List.countP_cons]
    omega

/-! ## Balance -/

/-- Free slots and slots that are held add up to the limit, and every permit is one of the
listener's own. -/
structure Balanced (limit : Nat) (r : Reception) : Prop where
  total : r.listener.available + r.calls.countP Call.holds = limit
  own : ∀ c ∈ r.calls, ∀ permit, c.permit? = some permit → permit.listener = r.listener.id

variable {limit : Nat} {r : Reception}

theorem Balanced.own_of (h : r.Balanced limit) {call : Nat} {c : Call} {permit : Permit}
    (hcall : r.calls[call]? = some c) (hpermit : c.permit? = some permit) :
    permit.listener = r.listener.id :=
  h.own c (List.mem_of_getElem? hcall) permit hpermit

/-- What a call gains the listener loses, and the other way round. -/
theorem Balanced.put (h : r.Balanced limit) {call : Nat} {old : Call}
    (hcall : r.calls[call]? = some old) {l : Listener} {new : Call} (hid : l.id = r.listener.id)
    (hmoved : l.available + (if new.holds then 1 else 0) =
      r.listener.available + (if old.holds then 1 else 0))
    (hown : ∀ permit, new.permit? = some permit → permit.listener = r.listener.id) :
    (r.put l call new).Balanced limit where
  total := by
    have hcount := countP_replace (p := Call.holds) hcall new
    have htotal := h.total
    simp only [put_listener, put_calls]
    omega
  own := by
    intro c hc permit hpermit
    rw [put_listener, hid]
    rcases List.mem_or_eq_of_mem_set hc with hother | rfl
    · exact h.own c hother permit hpermit
    · exact hown permit hpermit

theorem balanced_grant (h : r.Balanced limit) {call : Nat}
    (hcall : r.calls[call]? = some .queued) : (r.grant call).Balanced limit := by
  unfold Reception.grant
  split
  · exact h
  · rename_i permit l hgrant
    obtain ⟨hpermit, hfree, hl⟩ := Listener.grant_eq_some hgrant
    refine h.put hcall (by rw [hl]) ?_ ?_
    · rw [hfree]
      rfl
    · intro other hother
      cases hother
      exact hpermit

theorem balanced_receive (h : r.Balanced limit) {call : Nat} {permit : Permit}
    (hcall : r.calls[call]? = some (.granted permit)) (now : Instant) (handle : Handle) :
    (r.receive call permit now handle).Balanced limit := by
  have hpermit : permit.listener = r.listener.id := h.own_of hcall rfl
  unfold Reception.receive
  obtain ⟨-, hblocked⟩ | ⟨w, backlog, -, ⟨c, effects, hconnection⟩ | ⟨e, effects, hfailed⟩⟩ :=
    r.listener.receive_cases now handle permit
  · simp only [hblocked]
    exact h
  · simp only [hconnection]
    refine h.put hcall rfl rfl ?_
    intro other hother
    cases hother
    exact hpermit
  · -- The client has left the backlog, and the slot is free again.
    simp only [hfailed]
    rw [Listener.release_own (l := { r.listener with backlog }) hpermit]
    exact h.put hcall rfl rfl (by simp [Call.permit?])

/-- A slot that a call or a permit gives back is free again. -/
theorem balanced_release (h : r.Balanced limit) {call : Nat} {old : Call} {permit : Permit}
    (hcall : r.calls[call]? = some old) (hheld : old.permit? = some permit) {new : Call}
    (hnew : new.permit? = none) : (r.put (r.listener.release permit) call new).Balanced limit := by
  rw [Listener.release_own (h.own_of hcall hheld)]
  refine h.put hcall rfl ?_ ?_
  · simp [Call.holds, hheld, hnew]
  · intro other hother
    simp [hnew] at hother

/-- **Every event keeps the balance.** -/
theorem balanced_step (h : r.Balanced limit) (e : Event) : (r.step e).Balanced limit := by
  cases e with
  -- A new call holds nothing.
  | call =>
    refine ⟨?_, ?_⟩
    · simpa [step, Call.holds, Call.permit?] using h.total
    · intro c hc permit hpermit
      rcases List.mem_append.mp hc with hold | hnew
      · exact h.own c hold permit hpermit
      · rw [List.mem_singleton.mp hnew] at hpermit
        cases hpermit
  | arrive w => exact ⟨h.total, h.own⟩
  | grant call =>
    simp only [step]
    split
    · exact balanced_grant h ‹_›
    · exact h
  | receive call now handle =>
    simp only [step]
    split
    · exact balanced_receive h ‹_› now handle
    · exact h
  | refuse call fault =>
    simp only [step]
    split
    · exact balanced_release h ‹_› rfl rfl
    · exact h
  | giveUp call =>
    simp only [step]
    split
    · rename_i hqueued
      exact h.put hqueued rfl rfl (by simp [Call.permit?])
    · exact balanced_release h ‹_› rfl rfl
    · exact h
  | dropPermit call =>
    simp only [step]
    split
    · exact balanced_release h ‹_› rfl rfl
    · exact h
  | dropConnection call =>
    simp only [step]
    split
    · rename_i permit c peer hcall
      exact h.put hcall rfl rfl fun other hother => h.own_of hcall hother
    · exact h

theorem balanced_run (h : r.Balanced limit) (events : List Event) :
    (r.run events).Balanced limit := by
  induction events generalizing r with
  | nil => exact h
  | cons e events ih => exact ih (balanced_step h e)

/-! ## Giving back -/

/-- What the end of a call or of its answer does to the free slots. -/
structure GivesBack (r : Reception) : Prop where
  /-- A call that never got a slot has none to give back. -/
  queued : ∀ call, r.calls[call]? = some .queued →
    (r.step (.giveUp call)).listener = r.listener
  dropped : ∀ call permit, r.calls[call]? = some (.granted permit) →
    (r.step (.giveUp call)).listener.available = r.listener.available + 1
  refused : ∀ call permit fault, r.calls[call]? = some (.granted permit) →
    (r.step (.refuse call fault)).listener.available = r.listener.available + 1
  failed : ∀ call permit now handle e, r.calls[call]? = some (.granted permit) →
    (r.step (.receive call now handle)).calls[call]? = some (.failed e) →
    (r.step (.receive call now handle)).listener.available = r.listener.available + 1
  permit : ∀ call permit c peer, r.calls[call]? = some (.accepted (some permit) c peer) →
    (r.step (.dropPermit call)).listener.available = r.listener.available + 1
  /-- A connection that is dropped without its permit frees nothing. -/
  connection : ∀ call, (r.step (.dropConnection call)).listener = r.listener ∧
    (r.step (.dropConnection call)).permits = r.permits

theorem dropConnection_permits (r : Reception) (call : Nat) :
    (r.step (.dropConnection call)).permits = r.permits := by
  simp only [step]
  split
  · rename_i permit c peer hcall
    -- The call counts for as much without its connection as with it.
    exact Nat.add_right_cancel
      (countP_replace (p := Call.isHolding) hcall (.accepted permit none peer))
  · rfl

theorem dropConnection_listener (r : Reception) (call : Nat) :
    (r.step (.dropConnection call)).listener = r.listener := by
  simp only [step]
  split
  · rfl
  · rfl

/-- A call that fails for want of a usable context gives its slot back. -/
theorem Balanced.failed (h : r.Balanced limit) {call : Nat} {permit : Permit} {now : Instant}
    {handle : Handle} {e : ListenerError} (hcall : r.calls[call]? = some (.granted permit))
    (hfailed : (r.step (.receive call now handle)).calls[call]? = some (.failed e)) :
    (r.step (.receive call now handle)).listener.available = r.listener.available + 1 := by
  have hmade : call < r.calls.length := (List.getElem?_eq_some_iff.mp hcall).1
  simp only [step, hcall, Reception.receive] at hfailed ⊢
  obtain ⟨-, hblocked⟩ | ⟨w, backlog, -, ⟨c, effects, hconnection⟩ | ⟨error, effects, herror⟩⟩ :=
    r.listener.receive_cases now handle permit
  -- A call that still waits, or has returned, has not failed.
  · simp [hblocked, hcall] at hfailed
  · simp [hconnection, hmade] at hfailed
  · simp only [herror, put_listener]
    rw [Listener.release_own (l := { r.listener with backlog }) (h.own_of hcall rfl)]

theorem Balanced.gives_back (h : r.Balanced limit) : r.GivesBack where
  queued := by
    intro call hcall
    simp [step, hcall]
  dropped := by
    intro call permit hcall
    simp [step, hcall, Listener.release_own (h.own_of hcall rfl)]
  refused := by
    intro call permit fault hcall
    simp [step, hcall, Reception.refuse, Listener.refuse,
      Listener.release_own (h.own_of hcall rfl)]
  failed := fun _ _ _ _ _ hcall hfailed => h.failed hcall hfailed
  permit := by
    intro call permit c peer hcall
    simp [step, hcall, Listener.release_own (h.own_of hcall rfl)]
  connection := fun call => ⟨r.dropConnection_listener call, r.dropConnection_permits call⟩

/-! ## Every listener -/

/-- A listener starts with all its slots free. -/
theorem bind_balanced {id : Nat} {host : SocketAddress → Except Fault SocketAddress}
    {settings : Config.ListenerSettings} {endpoint : Endpoint} {l : Listener}
    {effects : List Effect}
    (h : Listener.bind id host settings endpoint = .listening l effects) :
    Balanced settings.maxConnections.toNat ⟨l, []⟩ := by
  have hbinds := h ▸ Listener.bind_binds id host settings endpoint
  have havailable : l.available = settings.maxConnections.toNat := by
    cases hbinds with
    | listening => rfl
  refine ⟨?_, ?_⟩
  · simpa using havailable
  · intro c hc
    cases hc

/-- **Slots are conserved.** However the calls to accept on a bound listener, their ends and the
drops of their permits and connections interleave, the free slots, the permits alive and the calls
in progress that hold a slot add up to the limit. So no more permits are alive than the limit
allows, a call that ends without a connection gives its slot back, a permit that is dropped gives
back the slot it holds, and a connection that is dropped without its permit gives back nothing. -/
theorem slots_are_conserved {id : Nat} {host : SocketAddress → Except Fault SocketAddress}
    {settings : Config.ListenerSettings} {endpoint : Endpoint} {l : Listener}
    {effects : List Effect}
    (hbound : Listener.bind id host settings endpoint = .listening l effects)
    (events : List Event) :
    let r := (Reception.mk l []).run events
    r.listener.available + r.permits + r.granted = settings.maxConnections.toNat ∧
      r.permits ≤ settings.maxConnections.toNat ∧ r.GivesBack := by
  intro r
  have hbalanced : r.Balanced settings.maxConnections.toNat :=
    balanced_run (bind_balanced hbound) events
  have htotal : r.listener.available + r.permits + r.granted = settings.maxConnections.toNat := by
    rw [Nat.add_assoc, ← r.holding_eq]
    exact hbalanced.total
  refine ⟨htotal, ?_, hbalanced.gives_back⟩
  omega

/-- Two slots: one call gets a slot and is dropped, one fails for want of a provider, one waits
for a client, and one is left without a slot. -/
theorem slots_are_conserved_of_two :
    let settings : Config.ListenerSettings := { bindAddress := "0.0.0.0:8443", maxConnections := 2 }
    let l : Listener := ⟨0, ⟨.v4 ⟨0, 0, 0, 0⟩, 8443, 0⟩, {}, 2, 2, []⟩
    let events : List Event :=
      [.call, .grant 0, .call, .grant 1, .call, .giveUp 0, .arrive ⟨⟨0⟩, ⟨localhost, 50000, 0⟩⟩,
        .receive 1 0 ⟨1⟩, .grant 2, .call]
    let r := (Reception.mk l []).run events
    Listener.bind 0 .ok settings {} = .listening l [.log (.bound l.address 2 5000)] ∧
      r.listener.available + r.permits + r.granted = 2 ∧ r.permits ≤ 2 ∧ r.GivesBack := by
  have hbound : Listener.bind 0 .ok { bindAddress := "0.0.0.0:8443", maxConnections := 2 } {} =
      .listening ⟨0, ⟨.v4 ⟨0, 0, 0, 0⟩, 8443, 0⟩, {}, 2, 2, []⟩
        [.log (.bound ⟨.v4 ⟨0, 0, 0, 0⟩, 8443, 0⟩ 2 5000)] :=
    rfl
  exact ⟨hbound, slots_are_conserved hbound _⟩

end Reception

end BoundedTls
