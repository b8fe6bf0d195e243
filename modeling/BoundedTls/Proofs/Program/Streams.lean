import BoundedTls.Proofs.Program.RoundTrip

/-!
# Streams that hold only so much

A client and an echo whose streams have finite buffers. What is written goes into the buffer of the
TLS layer, which pushes it on as far as the buffers of the sockets have room. What is left stays in
the layer until the next write or flush: reading pushes nothing on. A write waits for room in the
layer, a flush until the layer has pushed everything on.

## Architecture

- **Pipes**: one direction of a stream (`Pipe`), with its operations and the room that it has.
- **Wires**: a client and an echo with a pipe in either direction (`Wire`), and what each of them
  can do next (`SendStep`, `WireStep`).
- **Dialogues**: without its buffers a wire is a dialogue, so no byte is lost on it
  (`WireStep.dialogue`).
- **Every step**: what holds on a wire at all times (`Wire.Kept`), and what bounds its runs
  (`Wire.toGo`).
-/

namespace BoundedTls

open BoundedTls.Network BoundedTls.Program

/-! ## Pipes -/

/-- How much one direction of a stream holds, in the TLS layer and in the sockets. -/
structure Room where
  layer : Nat
  sockets : Nat
  layer_pos : 0 < layer := by decide
  sockets_pos : 0 < sockets := by decide

/-- What is on its way in one direction of a stream. -/
structure Pipe where
  /-- Bytes that the layer has taken and not pushed on. -/
  held : List UInt8 := []
  /-- Bytes in the sockets, where the other side finds them. -/
  sent : List UInt8 := []

namespace Pipe

/-- The bytes on their way, in the order in which they are read. -/
def bytes (p : Pipe) : List UInt8 :=
  p.sent ++ p.held

/-- The layer pushes on what the sockets have room for. -/
def push (room : Room) (p : Pipe) : Pipe :=
  let free := room.sockets - p.sent.length
  { held := p.held.drop free, sent := p.sent ++ p.held.take free }

/-- The layer takes bytes, and pushes on what it can. -/
def accept (room : Room) (new : List UInt8) (p : Pipe) : Pipe :=
  push room { p with held := p.held ++ new }

/-- The other side reads so many bytes. -/
def drain (n : Nat) (p : Pipe) : Pipe :=
  { p with sent := p.sent.drop n }

/-- No buffer holds more than it has room for. -/
structure Fits (room : Room) (p : Pipe) : Prop where
  held : p.held.length ≤ room.layer
  sent : p.sent.length ≤ room.sockets

/-- There is something to push on, and room for it. -/
structure CanPush (room : Room) (p : Pipe) : Prop where
  some : p.held ≠ []
  free : p.sent.length < room.sockets

/-- There is no room left at all. -/
structure Full (room : Room) (p : Pipe) : Prop where
  held : p.held.length = room.layer
  sent : p.sent.length = room.sockets

section

variable {room : Room} {p : Pipe} {new : List UInt8} {n : Nat}

@[simp] theorem push_bytes (room : Room) (p : Pipe) : (p.push room).bytes = p.bytes := by
  simp only [push, bytes, List.append_assoc, List.take_append_drop]

@[simp] theorem accept_bytes (room : Room) (new : List UInt8) (p : Pipe) :
    (p.accept room new).bytes = p.bytes ++ new := by
  rw [accept, push_bytes]
  simp only [bytes, List.append_assoc]

theorem push_held_length_le (room : Room) (p : Pipe) :
    (p.push room).held.length ≤ p.held.length := by
  simp only [push, List.length_drop]
  exact Nat.sub_le _ _

theorem CanPush.held_length_lt (h : p.CanPush room) :
    (p.push room).held.length < p.held.length := by
  have hsome := List.length_pos_iff.mpr h.some
  have hfree := h.free
  simp only [push, List.length_drop]
  omega

theorem drain_bytes (h : n ≤ p.sent.length) : (p.drain n).bytes = p.bytes.drop n :=
  (List.drop_append_of_le_length h).symm

theorem take_bytes (h : n ≤ p.sent.length) : p.bytes.take n = p.sent.take n :=
  List.take_append_of_le_length h

/-- The sockets take no more than they have room for. -/
theorem push_fits (hheld : p.held.length ≤ room.layer) (hsent : p.sent.length ≤ room.sockets) :
    (p.push room).Fits room := by
  refine ⟨Nat.le_trans (push_held_length_le room p) hheld, ?_⟩
  simp only [push, List.length_append, List.length_take]
  omega

theorem Fits.push (h : p.Fits room) : (p.push room).Fits room :=
  push_fits h.held h.sent

theorem Fits.accept (h : p.Fits room) (hroom : p.held.length + new.length ≤ room.layer) :
    (p.accept room new).Fits room :=
  push_fits (by simpa using hroom) h.sent

theorem Fits.drain (h : p.Fits room) (n : Nat) : (p.drain n).Fits room := by
  refine ⟨h.held, ?_⟩
  have hsent := h.sent
  simp only [Pipe.drain, List.length_drop]
  omega

/-- Nothing stays in the layer if the sockets have room for everything. -/
theorem push_held_eq_nil (h : (p.push room).bytes.length ≤ room.sockets) :
    (p.push room).held = [] := by
  rw [push_bytes, bytes, List.length_append] at h
  simp only [push, List.drop_eq_nil_iff]
  omega

end

end Pipe

/-! ## Wires -/

/-- The room of a stream in both directions. -/
structure Rooms where
  up : Room
  down : Room

/-- A client and an echo with what is on its way between them. -/
structure Wire where
  client : Exchange
  up : Pipe := {}
  echo : Echo := .reading
  down : Pipe := {}

/-- A client with its message, and an echo that has read nothing yet. -/
def Wire.start (message : List UInt8) : Wire :=
  { client := .start message }

/-- What can happen next while the client reads nothing. -/
inductive SendStep (rooms : Rooms) (w : Wire) : Wire → Prop where
  /-- A write of the client is taken as far as the layer has room. -/
  | clientWrites {rest : List UInt8} {count : Nat} (n : Nat) :
      w.client = .sending rest count → 0 < n → n ≤ rest.length →
      w.up.held.length + n ≤ rooms.up.layer →
      SendStep rooms w
        { w with client := w.client.step (.took n), up := w.up.accept rooms.up (rest.take n) }
  /-- A write that waits pushes on what it can. -/
  | writePushes {rest : List UInt8} {count : Nat} :
      w.client = .sending rest count → w.up.CanPush rooms.up →
      SendStep rooms w { w with up := w.up.push rooms.up }
  /-- So does a flush. -/
  | flushPushes {count : Nat} :
      w.client = .flushing count → w.up.CanPush rooms.up →
      SendStep rooms w { w with up := w.up.push rooms.up }
  /-- A flush is over once everything is pushed on. -/
  | clientFlushes {count : Nat} :
      w.client = .flushing count → w.up.held = [] →
      SendStep rooms w { w with client := w.client.step .flushed }
  | echoReads (n : Nat) :
      w.echo = .reading → 0 < n → n ≤ chunkLimit → n ≤ w.up.sent.length →
      SendStep rooms w
        { w with
          echo := w.echo.step (.found (.bytes (w.up.sent.take n)))
          up := w.up.drain n }
  /-- Once the last byte is taken the echo reads again. It does not flush. -/
  | echoWrites {rest : List UInt8} (n : Nat) :
      w.echo = .writing rest → 0 < n → n ≤ rest.length →
      w.down.held.length + n ≤ rooms.down.layer →
      SendStep rooms w
        { w with
          echo := w.echo.step (.took n)
          down := w.down.accept rooms.down (rest.take n) }
  | echoPushes {rest : List UInt8} :
      w.echo = .writing rest → w.down.CanPush rooms.down →
      SendStep rooms w { w with down := w.down.push rooms.down }

/-- What a client and an echo can do next. -/
inductive WireStep (rooms : Rooms) (w : Wire) : Wire → Prop where
  | send {w' : Wire} : SendStep rooms w w' → WireStep rooms w w'
  | clientReads {sofar : List UInt8} {missing : Nat} (n : Nat) :
      w.client = .receiving sofar missing → 0 < n → n ≤ missing → n ≤ w.down.sent.length →
      WireStep rooms w
        { w with
          client := w.client.step (.found (.bytes (w.down.sent.take n)))
          down := w.down.drain n }

namespace Wire

/-! ## Dialogues -/

/-- The wire without its buffers. -/
def dialogue (w : Wire) : Dialogue Echo :=
  { client := w.client, up := w.up.bytes, peer := w.echo, down := w.down.bytes }

/-- How many bytes the layers have taken and not pushed on. -/
def backlog (w : Wire) : Nat :=
  w.up.held.length + w.down.held.length

end Wire

section

variable {rooms : Rooms} {w w' : Wire} {message : List UInt8}

theorem SendStep.dialogue (s : SendStep rooms w w') :
    (w'.dialogue = w.dialogue ∧ w'.backlog < w.backlog) ∨ EchoStep w.dialogue w'.dialogue := by
  cases s with
  -- To push on moves bytes within one direction, which the dialogue does not see.
  | writePushes _ hcan | flushPushes _ hcan =>
    exact Or.inl ⟨by simp only [Wire.dialogue, Pipe.push_bytes],
      Nat.add_lt_add_right hcan.held_length_lt _⟩
  | echoPushes _ hcan =>
    exact Or.inl ⟨by simp only [Wire.dialogue, Pipe.push_bytes],
      Nat.add_lt_add_left hcan.held_length_lt _⟩
  -- The other steps are those of the dialogue, which never lacks room.
  | clientWrites n hclient hpositive hfits hroom =>
    refine Or.inr (.client ?_)
    simpa only [Wire.dialogue, Pipe.accept_bytes] using
      ClientStep.write (d := w.dialogue) n hclient hpositive hfits
  | clientFlushes hclient hheld =>
    exact Or.inr (.client (.flush (d := w.dialogue) hclient))
  | echoReads n hecho hpositive hlimit hthere =>
    have hbytes : n ≤ w.up.bytes.length := by
      rw [Pipe.bytes, List.length_append]
      omega
    refine Or.inr ?_
    simpa only [Wire.dialogue, Pipe.drain_bytes hthere, Pipe.take_bytes hthere] using
      EchoStep.read (d := w.dialogue) n hecho hpositive hlimit hbytes
  | echoWrites n hecho hpositive hfits hroom =>
    refine Or.inr ?_
    simpa only [Wire.dialogue, Pipe.accept_bytes] using
      EchoStep.write (d := w.dialogue) n hecho hpositive hfits

/-- **A step on a wire is one of a dialogue**, or pushes bytes on. -/
theorem WireStep.dialogue (s : WireStep rooms w w') :
    (w'.dialogue = w.dialogue ∧ w'.backlog < w.backlog) ∨ EchoStep w.dialogue w'.dialogue := by
  cases s with
  | send s => exact s.dialogue
  | clientReads n hclient hpositive hwanted hthere =>
    have hbytes : n ≤ w.down.bytes.length := by
      rw [Pipe.bytes, List.length_append]
      omega
    refine Or.inr (.client ?_)
    simpa only [Wire.dialogue, Pipe.drain_bytes hthere, Pipe.take_bytes hthere] using
      ClientStep.read (d := w.dialogue) n hclient hpositive hwanted hbytes

/-- The message is all there, in its places. -/
theorem Wire.length_whole (h : Conveys message w.dialogue) :
    w.client.got.length + (w.down.sent.length + w.down.held.length) + w.echo.unsent.length +
      (w.up.sent.length + w.up.held.length + w.client.unsent.length) = message.length := by
  have hwhole := congrArg List.length h.whole
  simpa only [Wire.dialogue, Pipe.bytes, List.length_append] using hwhole

/-! ## Every step -/

/-- What holds on a wire at all times. -/
structure Wire.Kept (message : List UInt8) (rooms : Rooms) (w : Wire) : Prop where
  conveys : Conveys message w.dialogue
  up : w.up.Fits rooms.up
  down : w.down.Fits rooms.down
  /-- A client that reads has flushed. -/
  flushed : w.client.turns ≤ 1 → w.up.held = []
  /-- A message that the sockets have room for on its way back does not wait in the layer. -/
  roomy : message.length ≤ rooms.down.sockets → w.down.held = []

namespace Wire.Kept

theorem start (message : List UInt8) (rooms : Rooms) : Kept message rooms (.start message) where
  conveys := Conveys.start message
  up := ⟨Nat.zero_le _, Nat.zero_le _⟩
  down := ⟨Nat.zero_le _, Nat.zero_le _⟩
  flushed _ := rfl
  roomy _ := rfl

theorem send (h : Kept message rooms w) (hconveys : Conveys message w'.dialogue)
    (s : SendStep rooms w w') : Kept message rooms w' := by
  have hback : w'.down.bytes.length ≤ message.length := by
    have hwhole := Wire.length_whole hconveys
    rw [Pipe.bytes, List.length_append]
    omega
  cases s with
  -- The client goes over to reading by a flush only, which waits until nothing is held.
  | @clientWrites rest count n hclient hpositive hfits hroom =>
    have hturns : (w.client.step (.took n)).turns = 2 := by
      rw [hclient, Exchange.step_took hpositive, Exchange.send_turns]
    refine ⟨hconveys, h.up.accept (by rwa [List.length_take_of_le hfits]), h.down, ?_, h.roomy⟩
    intro hfew
    rw [hturns] at hfew
    exact absurd hfew (by decide)
  | writePushes hclient | flushPushes hclient =>
    refine ⟨hconveys, h.up.push, h.down, ?_, h.roomy⟩
    intro hfew
    rw [hclient] at hfew
    exact absurd (show 2 ≤ 1 from hfew) (by decide)
  | clientFlushes _ hheld => exact ⟨hconveys, h.up, h.down, fun _ => hheld, h.roomy⟩
  | echoReads n => exact ⟨hconveys, h.up.drain n, h.down, h.flushed, h.roomy⟩
  | echoWrites n _ _ hfits hroom =>
    refine ⟨hconveys, h.up, h.down.accept (by rwa [List.length_take_of_le hfits]), h.flushed, ?_⟩
    intro hsmall
    exact Pipe.push_held_eq_nil (Nat.le_trans hback hsmall)
  | echoPushes =>
    refine ⟨hconveys, h.up, h.down.push, h.flushed, ?_⟩
    intro hsmall
    exact Pipe.push_held_eq_nil (Nat.le_trans hback hsmall)

theorem step (h : Kept message rooms w) (s : WireStep rooms w w') : Kept message rooms w' := by
  have hconveys : Conveys message w'.dialogue := by
    rcases s.dialogue with ⟨hsame, -⟩ | hstep
    · rw [hsame]
      exact h.conveys
    · exact (h.conveys.step hstep).1
  cases s with
  | send s => exact h.send hconveys s
  | clientReads n hclient =>
    have hone : w.client.turns ≤ 1 := by
      rw [hclient]
      exact Nat.le_refl 1
    exact ⟨hconveys, h.up, h.down.drain n, fun _ => h.flushed hone, h.roomy⟩

end Wire.Kept

/-- What is left to do on a wire. A step of the dialogue counts for more than all that the layers
have room for, which is as often as they can push on before the next. -/
def Wire.toGo (rooms : Rooms) (w : Wire) : Nat :=
  (rooms.up.layer + rooms.down.layer + 1) * echoToGo w.dialogue + w.backlog

theorem Wire.toGo_start (rooms : Rooms) (message : List UInt8) :
    (Wire.start message).toGo rooms =
      (rooms.up.layer + rooms.down.layer + 1) * (4 * message.length + 2) :=
  congrArg _ (echoToGo_start message)

/-- **Every step brings a wire nearer to its end.** -/
theorem WireStep.nearer (h : w.Kept message rooms) (s : WireStep rooms w w') :
    w'.toGo rooms < w.toGo rooms := by
  have hkept := h.step s
  have hbacklog : w'.backlog ≤ rooms.up.layer + rooms.down.layer :=
    Nat.add_le_add hkept.up.held hkept.down.held
  unfold Wire.toGo
  rcases s.dialogue with ⟨hsame, hless⟩ | hstep
  · rw [hsame]
    exact Nat.add_lt_add_left hless _
  · -- What the step adds to the backlog is less than what it counts for.
    have hscaled := Nat.mul_le_mul_left (rooms.up.layer + rooms.down.layer + 1)
      (h.conveys.step hstep).2
    rw [Nat.succ_eq_add_one, Nat.mul_add, Nat.mul_one] at hscaled
    omega

/-- What follows for a wire if it holds after each of its steps holds for the wire. -/
theorem Wire.Kept.induction {P : Wire → Prop}
    (step : ∀ w, Kept message rooms w → (∀ w', WireStep rooms w w' → P w') → P w)
    (h : w.Kept message rooms) : P w := by
  induction hmeasure : w.toGo rooms using Nat.strongRecOn generalizing w with
  | ind m ih =>
    subst hmeasure
    exact step w h fun w' s => ih _ (s.nearer h) (h.step s) rfl

/-- What holds after every run. -/
theorem Wire.Kept.run {k : Nat} (h : w.Kept message rooms) (s : Steps (WireStep rooms) k w w') :
    w'.Kept message rooms ∧ w'.toGo rooms + k ≤ w.toGo rooms :=
  s.keep (fun _ _ h s => ⟨h.step s, s.nearer h⟩) h

end

end BoundedTls
