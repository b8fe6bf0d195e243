import BoundedTls.Proofs.Program.Streams

/-!
# Standstills

A client writes its whole message before it reads, and an echo reads again without a flush. So on
streams with finite buffers the two can come to wait for each other for good. There are three ways
to get stuck, and some run gets there exactly if the sockets on the way back have no room for the
whole message.

## Architecture

- **Wedges**: the states in which both sides wait for good (`Wire.Wedge`).
- **Waiting**: what each side waits for when nothing more is sent (`Wire.Kept.echo_waits`,
  `Wire.Kept.client_waits`), and that there are no other wedges (`Wire.Kept.stuck_iff`).
- **Ways there**: as long as more is missing than the sockets on the way back hold, the two can
  still get stuck (`Wire.Kept.mayStick`).
-/

namespace BoundedTls

open BoundedTls.Network BoundedTls.Program

namespace Pipe

variable {room : Room} {p : Pipe}

theorem Full.takes_nothing (h : p.Full room) {n : Nat} (hpositive : 0 < n) :
    ¬ p.held.length + n ≤ room.layer := by
  rw [h.held]
  omega

theorem not_canPush (h : p.sent.length = room.sockets) : ¬ p.CanPush room :=
  fun hcan => Nat.ne_of_lt hcan.free h

theorem sent_ne_nil (h : p.sent.length = room.sockets) : p.sent ≠ [] :=
  List.ne_nil_of_length_pos (h ▸ room.sockets_pos)

/-- A pipe that fits and takes nothing more is full. -/
theorem Fits.full (h : p.Fits room) (hroom : ¬ p.held.length + 1 ≤ room.layer)
    (hpush : ¬ p.CanPush room) : p.Full room := by
  have hheld : p.held.length = room.layer := Nat.le_antisymm h.held (by omega)
  have hsome : p.held ≠ [] := List.ne_nil_of_length_pos (hheld ▸ room.layer_pos)
  refine ⟨hheld, Nat.le_antisymm h.sent ?_⟩
  exact Nat.le_of_not_lt fun hfree => hpush ⟨hsome, hfree⟩

end Pipe

namespace Wire

/-! ## Wedges -/

/-- The reply is not complete, and nothing can happen any more. -/
def Stuck (rooms : Rooms) (w : Wire) : Prop :=
  (∀ reply, w.client ≠ .complete reply) ∧ ∀ w', ¬ WireStep rooms w w'

/-- Both sides wait for each other. -/
inductive Wedge (rooms : Rooms) (w : Wire) : Prop where
  /-- Both write, and there is no room in either direction. -/
  | bothWrite {rest left : List UInt8} {count : Nat} :
      w.client = .sending rest count → w.up.Full rooms.up →
      w.echo = .writing left → w.down.Full rooms.down → Wedge rooms w
  /-- The client has written everything and cannot push all of it on. -/
  | flushAndWrite {left : List UInt8} {count : Nat} :
      w.client = .flushing count → w.up.held ≠ [] → w.up.sent.length = rooms.up.sockets →
      w.echo = .writing left → w.down.Full rooms.down → Wedge rooms w
  /-- Both read, and what has still to come back was not flushed. -/
  | bothRead {sofar : List UInt8} {missing : Nat} :
      w.client = .receiving sofar missing → w.down.sent = [] → w.down.held ≠ [] →
      w.echo = .reading → w.up.sent = [] → Wedge rooms w

section

variable {message : List UInt8} {rooms : Rooms} {w w' : Wire}

theorem Wedge.stuck (h : w.Wedge rooms) : w.Stuck rooms := by
  cases h with
  | bothWrite hclient hup hecho hdown =>
    refine ⟨fun reply hcomplete => ?_, fun w' s => ?_⟩
    · cases hclient.symm.trans hcomplete
    cases s with
    | clientReads _ hreceiving => cases hclient.symm.trans hreceiving
    | send s =>
      cases s with
      | clientWrites n _ hpositive _ hroom => exact hup.takes_nothing hpositive hroom
      | writePushes _ hcan => exact Pipe.not_canPush hup.sent hcan
      | flushPushes hflushing | clientFlushes hflushing => cases hclient.symm.trans hflushing
      | echoReads _ hreading => cases hecho.symm.trans hreading
      | echoWrites n _ hpositive _ hroom => exact hdown.takes_nothing hpositive hroom
      | echoPushes _ hcan => exact Pipe.not_canPush hdown.sent hcan
  | flushAndWrite hclient hheld hup hecho hdown =>
    refine ⟨fun reply hcomplete => ?_, fun w' s => ?_⟩
    · cases hclient.symm.trans hcomplete
    cases s with
    | clientReads _ hreceiving => cases hclient.symm.trans hreceiving
    | send s =>
      cases s with
      | clientWrites _ hsending | writePushes hsending => cases hclient.symm.trans hsending
      | flushPushes _ hcan => exact Pipe.not_canPush hup hcan
      | clientFlushes _ hnone => exact hheld hnone
      | echoReads _ hreading => cases hecho.symm.trans hreading
      | echoWrites n _ hpositive _ hroom => exact hdown.takes_nothing hpositive hroom
      | echoPushes _ hcan => exact Pipe.not_canPush hdown.sent hcan
  -- Neither side finds anything, and nobody pushes on what the layers hold.
  | bothRead hclient hdown _ hecho hup =>
    refine ⟨fun reply hcomplete => ?_, fun w' s => ?_⟩
    · cases hclient.symm.trans hcomplete
    cases s with
    | clientReads n _ hpositive _ hthere =>
      rw [hdown] at hthere
      exact Nat.not_le_of_gt hpositive hthere
    | send s =>
      cases s with
      | clientWrites _ hother | writePushes hother | flushPushes hother | clientFlushes hother =>
        cases hclient.symm.trans hother
      | echoReads n _ hpositive _ hthere =>
        rw [hup] at hthere
        exact Nat.not_le_of_gt hpositive hthere
      | echoWrites _ hwriting | echoPushes hwriting => cases hecho.symm.trans hwriting

/-! ## Waiting -/

namespace Kept

/-- An echo waits for bytes, or for room on the way back. -/
theorem echo_waits (h : w.Kept message rooms) (hnone : ∀ w', ¬ SendStep rooms w w') :
    (w.echo = .reading ∧ w.up.sent = []) ∨
      ∃ left, w.echo = .writing left ∧ left ≠ [] ∧ w.down.Full rooms.down := by
  obtain hreading | ⟨left, hwriting, hleft⟩ := h.conveys.peer
  · refine Or.inl ⟨hreading, ?_⟩
    apply Classical.byContradiction
    intro hsome
    exact hnone _ (.echoReads 1 hreading Nat.one_pos (by decide) (List.length_pos_iff.mpr hsome))
  · have hroom : ¬ w.down.held.length + 1 ≤ rooms.down.layer := fun hroom =>
      hnone _ (.echoWrites 1 hwriting Nat.one_pos (List.length_pos_iff.mpr hleft) hroom)
    exact Or.inr ⟨left, hwriting, hleft,
      h.down.full hroom fun hcan => hnone _ (.echoPushes hwriting hcan)⟩

/-- An echo that can find something waits for room on the way back. -/
theorem echo_waits_for_room (h : w.Kept message rooms) (hnone : ∀ w', ¬ SendStep rooms w w')
    (hup : w.up.sent.length = rooms.up.sockets) :
    ∃ left, w.echo = .writing left ∧ w.down.Full rooms.down := by
  obtain ⟨-, hnothing⟩ | ⟨left, hecho, -, hdown⟩ := h.echo_waits hnone
  · exact absurd hnothing (Pipe.sent_ne_nil hup)
  · exact ⟨left, hecho, hdown⟩

/-- A client that has still to send waits for good. Any other waits for its reply. -/
theorem client_waits (h : w.Kept message rooms) (hnone : ∀ w', ¬ SendStep rooms w w') :
    w.Wedge rooms ∨ (∃ reply, w.client = .complete reply) ∨
      ∃ sofar missing, w.client = .receiving sofar missing ∧ missing ≠ 0 := by
  have hgoing : w.client.Going := h.conveys.going
  generalize hclient : w.client = client at hgoing
  cases hgoing with
  -- While it has to send, the way to the echo is full, so the echo does not wait for bytes.
  | @sending rest count hsome =>
    have hroom : ¬ w.up.held.length + 1 ≤ rooms.up.layer := fun hroom =>
      hnone _ (.clientWrites 1 hclient Nat.one_pos (List.length_pos_iff.mpr hsome) hroom)
    have hup := h.up.full hroom fun hcan => hnone _ (.writePushes hclient hcan)
    obtain ⟨left, hecho, hdown⟩ := h.echo_waits_for_room hnone hup.sent
    exact Or.inl (.bothWrite hclient hup hecho hdown)
  | flushing count =>
    have hheld : w.up.held ≠ [] := fun hheld => hnone _ (.clientFlushes hclient hheld)
    have hup : w.up.sent.length = rooms.up.sockets := Nat.le_antisymm h.up.sent
      (Nat.le_of_not_lt fun hfree => hnone _ (.flushPushes hclient ⟨hheld, hfree⟩))
    obtain ⟨left, hecho, hdown⟩ := h.echo_waits_for_room hnone hup
    exact Or.inl (.flushAndWrite hclient hheld hup hecho hdown)
  | complete reply => exact Or.inr (Or.inl ⟨reply, rfl⟩)
  | @receiving sofar missing hmissing => exact Or.inr (Or.inr ⟨sofar, missing, rfl, hmissing⟩)

/-- What has come back and what is missing are the message, and what is missing is in its places. -/
theorem missing_eq (h : w.Kept message rooms) {sofar : List UInt8} {missing : Nat}
    (hclient : w.client = .receiving sofar missing) :
    sofar.length + missing = message.length ∧
      w.down.sent.length + w.down.held.length + w.echo.unsent.length + w.up.sent.length =
        missing := by
  have hwanted : w.client.wanted = message.length := h.conveys.wanted
  have hwhole := Wire.length_whole h.conveys
  have hflushed : w.up.held = [] := h.flushed (by rw [hclient]; exact Nat.le_refl 1)
  simp only [hclient, hflushed, Exchange.wanted, Exchange.got, Exchange.unsent,
    List.length_nil] at hwanted hwhole
  omega

theorem wedge (h : w.Kept message rooms) (hstuck : w.Stuck rooms) : w.Wedge rooms := by
  have hnone : ∀ w', ¬ SendStep rooms w w' := fun w' s => hstuck.2 w' (.send s)
  obtain hwedge | ⟨reply, hclient⟩ | ⟨sofar, missing, hclient, hmissing⟩ := h.client_waits hnone
  · exact hwedge
  · exact absurd hclient (hstuck.1 reply)
  · have hnothing : w.down.sent = [] := by
      apply Classical.byContradiction
      intro hsome
      exact hstuck.2 _ (.clientReads 1 hclient Nat.one_pos (Nat.one_le_iff_ne_zero.mpr hmissing)
        (List.length_pos_iff.mpr hsome))
    obtain ⟨hecho, hup⟩ | ⟨left, -, -, hdown⟩ := h.echo_waits hnone
    · -- What is missing can only be in the layer of the echo.
      have hplaces := (h.missing_eq hclient).2
      simp only [hnothing, hecho, hup, Echo.unsent, List.length_nil] at hplaces
      exact .bothRead hclient hnothing (List.ne_nil_of_length_pos (by omega)) hecho hup
    · exact absurd hnothing (Pipe.sent_ne_nil hdown.sent)

/-- **There are no other ways to get stuck.** -/
theorem stuck_iff (h : w.Kept message rooms) : w.Stuck rooms ↔ w.Wedge rooms :=
  ⟨h.wedge, Wedge.stuck⟩

end Kept

end

/-! ## Ways there -/

/-- Some run gets stuck. -/
def MayStick (rooms : Rooms) (w : Wire) : Prop :=
  ∃ k w', Steps (WireStep rooms) k w w' ∧ w'.Stuck rooms

end Wire

theorem Steps.cons {α : Type} {step : α → α → Prop} {k : Nat} {a b c : α} (first : step a b)
    (s : Steps step k b c) : Steps step (k + 1) a c := by
  induction s with
  | none b => exact .more (.none a) first
  | more _ last ih => exact .more (ih first) last

section

variable {message : List UInt8} {rooms : Rooms} {w w' : Wire}

/-- Nothing comes back while the client reads nothing. -/
theorem SendStep.got (s : SendStep rooms w w') : w'.client.got = w.client.got := by
  cases s with
  | clientWrites n hclient hpositive =>
    show (w.client.step (.took n)).got = w.client.got
    rw [hclient, Exchange.step_took hpositive, Exchange.send_got]
    rfl
  | @clientFlushes count hclient =>
    show (w.client.step .flushed).got = w.client.got
    rw [hclient]
    exact Exchange.receive_got [] count
  | writePushes | flushPushes | echoReads | echoWrites | echoPushes => rfl

namespace Wire

theorem Wedge.mayStick (h : w.Wedge rooms) : w.MayStick rooms :=
  ⟨0, w, .none w, h.stuck⟩

theorem MayStick.of_step (first : WireStep rooms w w') (h : w'.MayStick rooms) :
    w.MayStick rooms := by
  obtain ⟨k, last, s, hstuck⟩ := h
  exact ⟨k + 1, last, s.cons first, hstuck⟩

namespace Kept

/-- What was not flushed stays where it is once the client has read the rest. -/
theorem mayStick_of_held (h : w.Kept message rooms) {sofar : List UInt8} {missing : Nat}
    (hclient : w.client = .receiving sofar missing) (hheld : w.down.held ≠ [])
    (hecho : w.echo = .reading) (hup : w.up.sent = []) : w.MayStick rooms := by
  by_cases hsent : w.down.sent = []
  · exact Wedge.mayStick (.bothRead hclient hsent hheld hecho hup)
  have hplaces := (h.missing_eq hclient).2
  have hfound := List.length_pos_iff.mpr hsent
  have hleft := List.length_pos_iff.mpr hheld
  have hclient' : w.client.step (.found (.bytes (w.down.sent.take w.down.sent.length))) =
      .receiving (sofar ++ w.down.sent) (missing - w.down.sent.length) := by
    rw [List.take_length, hclient, Exchange.step_found hsent, Exchange.receive,
      if_neg (by omega)]
  refine .of_step (.clientReads w.down.sent.length hclient hfound (by omega) (Nat.le_refl _)) ?_
  exact Wedge.mayStick (.bothRead hclient' List.drop_length hheld hecho hup)

/-- **While more is missing than the sockets on the way back hold**, the client can let the buffers
run full. It goes on sending as long as it can, and reads only to make room for the echo. -/
theorem mayStick (h : w.Kept message rooms) :
    w.client.got.length + rooms.down.sockets < message.length → w.MayStick rooms := by
  refine h.induction (P := fun w =>
    w.client.got.length + rooms.down.sockets < message.length → w.MayStick rooms) ?_
  intro w h ih hmissing
  by_cases hsend : ∃ w', SendStep rooms w w'
  · obtain ⟨w', s⟩ := hsend
    exact .of_step (.send s) (ih w' (.send s) (by rwa [s.got]))
  have hnone : ∀ w', ¬ SendStep rooms w w' := fun w' s => hsend ⟨w', s⟩
  obtain hwedge | ⟨reply, hclient⟩ | ⟨sofar, missing, hclient, hwaits⟩ := h.client_waits hnone
  · exact hwedge.mayStick
  · have hcomplete := (h.conveys.complete hclient).1
    rw [hclient, hcomplete] at hmissing
    exact absurd hmissing (Nat.not_lt_of_le (Nat.le_add_right _ _))
  obtain ⟨hwhole, hplaces⟩ := h.missing_eq hclient
  have hgot : w.client.got = sofar := by
    rw [hclient]
    rfl
  rw [hgot] at hmissing
  have hsockets := h.down.sent
  obtain ⟨hecho, hup⟩ | ⟨left, hecho, hleft, hdown⟩ := h.echo_waits hnone
  · -- All that is missing is on its way back, more than the sockets have room for.
    simp only [hecho, hup, Echo.unsent, List.length_nil] at hplaces
    exact h.mayStick_of_held hclient (List.ne_nil_of_length_pos (by omega)) hecho hup
  · -- The echo holds at least one byte beside those in the buffers.
    have hfound : 1 ≤ w.down.sent.length := hdown.sent ▸ rooms.down.sockets_pos
    have hlayer := rooms.down.layer_pos
    have howes := List.length_pos_iff.mpr hleft
    have s : WireStep rooms w _ :=
      .clientReads 1 hclient Nat.one_pos (Nat.one_le_iff_ne_zero.mpr hwaits) hfound
    refine .of_step s (ih _ s ?_)
    have hone : (w.down.sent.take 1).length = 1 := List.length_take_of_le hfound
    show (w.client.step (.found (.bytes (w.down.sent.take 1)))).got.length + _ < _
    rw [hclient, Exchange.step_found (List.ne_nil_of_length_pos (by omega)), Exchange.receive_got,
      List.length_append, hone]
    simp only [hecho, hdown.held, hdown.sent, Echo.unsent] at hplaces
    omega

end Kept

end Wire

end

/-! ## Round trips on finite streams -/

namespace Wire

/-- What becomes of a message on streams with so much room. -/
structure Fares (message : List UInt8) (rooms : Rooms) : Prop where
  /-- However the two take turns, they come to an end. -/
  ends : ∀ k w, Steps (WireStep rooms) k (.start message) w →
    k ≤ (rooms.up.layer + rooms.down.layer + 1) * (4 * message.length + 2)
  exact : ∀ k w, Steps (WireStep rooms) k (.start message) w → ∀ reply,
    w.client = .complete reply → reply = message
  /-- The two get stuck in a wedge, and in no other way. -/
  stuck : ∀ k w, Steps (WireStep rooms) k (.start message) w → (w.Stuck rooms ↔ w.Wedge rooms)
  /-- They can get there exactly if the sockets have no room for the message on its way back. -/
  sticks : (Wire.start message).MayStick rooms ↔ rooms.down.sockets < message.length
  /-- If they have room for it, it is back once nothing is left to do. -/
  returns : message.length ≤ rooms.down.sockets →
    ∀ k w, Steps (WireStep rooms) k (.start message) w → (∀ w', ¬ WireStep rooms w w') →
      w.client = .complete message

theorem round_trip_on_finite_streams (message : List UInt8) (rooms : Rooms) :
    Fares message rooms := by
  have hstart := Kept.start message rooms
  have hexact {k : Nat} {w : Wire} (s : Steps (WireStep rooms) k (.start message) w)
      (reply : List UInt8) (hclient : w.client = .complete reply) : reply = message :=
    ((hstart.run s).1.conveys.complete hclient).1
  -- A message that fits into the sockets leaves no room for a wedge.
  have hunstuck {k : Nat} {w : Wire} (s : Steps (WireStep rooms) k (.start message) w)
      (hstuck : w.Stuck rooms) : rooms.down.sockets < message.length := by
    have hkept := (hstart.run s).1
    apply Nat.lt_of_not_le
    intro hsmall
    have hnone := hkept.roomy hsmall
    have hlayer : ¬ w.down.Full rooms.down := by
      intro hfull
      have hheld := hfull.held
      rw [hnone] at hheld
      exact Nat.ne_of_lt rooms.down.layer_pos hheld
    cases hkept.wedge hstuck with
    | bothWrite _ _ _ hfull | flushAndWrite _ _ _ _ hfull => exact hlayer hfull
    | bothRead _ _ hheld => exact hheld hnone
  refine ⟨?_, fun k w => hexact, fun k w s => (hstart.run s).1.stuck_iff, ⟨?_, ?_⟩, ?_⟩
  · intro k w s
    have hbound := (hstart.run s).2
    rw [toGo_start] at hbound
    omega
  · rintro ⟨k, w, s, hstuck⟩
    exact hunstuck s hstuck
  · intro hshort
    refine hstart.mayStick ?_
    show (Exchange.send message message.length).got.length + _ < _
    rw [Exchange.send_got, List.length_nil, Nat.zero_add]
    exact hshort
  · intro hsmall k w s hrest
    apply Classical.byContradiction
    intro hnot
    refine Nat.not_lt_of_le hsmall (hunstuck s ⟨?_, hrest⟩)
    intro reply hclient
    exact hnot (hclient.trans (congrArg _ (hexact s reply hclient)))

/-- Buffers with room for one byte each. -/
def tight : Rooms where
  up := { layer := 1, sockets := 1 }
  down := { layer := 1, sockets := 1 }

/-- Two bytes fill the way back: the first the sockets, the second the layer of the echo. -/
theorem tight_fills {a b : UInt8} {rest : List UInt8} {count k : Nat} {w : Wire}
    (s : Steps (WireStep tight) k
      { client := .send rest count, down := { held := [b], sent := [a] } } w) :
    Steps (WireStep tight) (k + 6) { client := .sending (a :: b :: rest) count } w := by
  refine .cons (.send (.clientWrites 1 rfl Nat.one_pos (Nat.le_add_left _ _) (Nat.le_refl _))) ?_
  refine .cons (.send (.echoReads 1 rfl Nat.one_pos (by decide) (Nat.le_refl _))) ?_
  refine .cons (.send (.echoWrites 1 rfl Nat.one_pos (Nat.le_refl _) (Nat.le_refl _))) ?_
  refine .cons (.send (.clientWrites 1 rfl Nat.one_pos (Nat.le_add_left _ _) (Nat.le_refl _))) ?_
  refine .cons (.send (.echoReads 1 rfl Nat.one_pos (by decide) (Nat.le_refl _))) ?_
  refine .cons (.send (.echoWrites 1 rfl Nat.one_pos (Nat.le_refl _) (Nat.le_refl _))) ?_
  exact s

/-- In the smallest buffers both write for good from six bytes on, and both read for good from two
bytes on, the last of which was never flushed. -/
theorem both_wait_in_vain :
    (∃ k w, Steps (WireStep tight) k (.start [1, 2, 3, 4, 5, 6]) w ∧
      w.client = .sending [6] 6 ∧ w.echo = .writing [3] ∧ w.Stuck tight) ∧
      ∃ k w, Steps (WireStep tight) k (.start [1, 2]) w ∧
        w.client = .receiving [1] 1 ∧ w.echo = .reading ∧ w.down.held = [2] ∧ w.Stuck tight := by
  constructor
  · refine ⟨10, { client := .sending [6] 6, up := { held := [5], sent := [4] }
                  echo := .writing [3], down := { held := [2], sent := [1] } }, ?_, rfl, rfl,
      Wedge.stuck (.bothWrite rfl ⟨rfl, rfl⟩ rfl ⟨rfl, rfl⟩)⟩
    refine tight_fills ?_
    -- The echo is left with the third, and the next two fill the way to it.
    refine .cons (.send (.clientWrites 1 rfl (by decide) (by decide) (by decide))) ?_
    refine .cons (.send (.echoReads 1 rfl (by decide) (by decide) (by decide))) ?_
    refine .cons (.send (.clientWrites 1 rfl (by decide) (by decide) (by decide))) ?_
    refine .cons (.send (.clientWrites 1 rfl (by decide) (by decide) (by decide))) ?_
    exact .none _
  · refine ⟨8, { client := .receiving [1] 1, down := { held := [2] } }, ?_, rfl, rfl, rfl,
      Wedge.stuck (.bothRead rfl rfl (by decide) rfl rfl)⟩
    refine tight_fills ?_
    refine .cons (.send (.clientFlushes rfl rfl)) ?_
    refine .cons (.clientReads 1 rfl (by decide) (by decide) (by decide)) ?_
    exact .none _

end Wire

end BoundedTls
