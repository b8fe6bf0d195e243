import BoundedTls.Network.Exchange

/-!
# Dialogues

A client with a message and a peer at the other end of its stream. The stream is reliable and
ordered: the bytes that one side has written are read by the other in the order in which they were
written. How many bytes a write takes and how many a read brings is left open, and so is which side
goes next.

## Architecture

- **Views**: what an exchange has still to send, what it has got, and how much it wants in all.
- **Dialogues**: both sides with the bytes on their way. A kind of peer adds its own steps to those
  of the client (`ClientStep`).
- **The client's part**: a step of the client loses no byte in either direction, and brings it
  nearer to its end (`ClientStep.moves`).
- **Runs**: an invariant with a measure that every step lowers bounds the length of a run.
-/

namespace BoundedTls

open BoundedTls.Network

namespace Exchange

/-! ## Views -/

/-- The bytes that are still to be written. -/
def unsent : Exchange → List UInt8
  | sending rest _ => rest
  | _ => []

/-- The bytes that have come back. -/
def got : Exchange → List UInt8
  | receiving sofar _ => sofar
  | complete reply => reply
  | _ => []

/-- The number of bytes that are wanted back in all. -/
def wanted : Exchange → Nat
  | sending _ count | flushing count => count
  | receiving sofar missing => sofar.length + missing
  | complete reply => reply.length
  | failed _ => 0

/-- The number of turns that an exchange still has to take: writing, then reading. -/
def turns : Exchange → Nat
  | sending _ _ | flushing _ => 2
  | receiving _ _ => 1
  | complete _ | failed _ => 0

/-- The exchange has not failed, and waits only for what it needs. -/
inductive Going : Exchange → Prop where
  | sending {rest : List UInt8} (count : Nat) : rest ≠ [] → Going (sending rest count)
  | flushing (count : Nat) : Going (flushing count)
  | receiving (sofar : List UInt8) {missing : Nat} : missing ≠ 0 → Going (receiving sofar missing)
  | complete (reply : List UInt8) : Going (complete reply)

section

variable (bytes : List UInt8) (n : Nat)

@[simp] theorem send_unsent : (send bytes n).unsent = bytes := by
  unfold send
  split
  · rename_i hnone
    exact hnone.symm
  · rfl

@[simp] theorem send_got : (send bytes n).got = [] := by
  unfold send
  split <;> rfl

@[simp] theorem send_wanted : (send bytes n).wanted = n := by
  unfold send
  split <;> rfl

@[simp] theorem send_turns : (send bytes n).turns = 2 := by
  unfold send
  split <;> rfl

theorem send_going : (send bytes n).Going := by
  unfold send
  split
  · exact .flushing n
  · exact .sending n ‹_›

@[simp] theorem receive_unsent : (receive bytes n).unsent = [] := by
  unfold receive
  split <;> rfl

@[simp] theorem receive_got : (receive bytes n).got = bytes := by
  unfold receive
  split <;> rfl

@[simp] theorem receive_wanted : (receive bytes n).wanted = bytes.length + n := by
  unfold receive
  split
  · rename_i hzero
    rw [hzero]
    rfl
  · rfl

theorem receive_turns : (receive bytes n).turns ≤ 1 := by
  unfold receive
  split
  · exact Nat.zero_le 1
  · exact Nat.le_refl 1

theorem receive_going : (receive bytes n).Going := by
  unfold receive
  split
  · exact .complete bytes
  · exact .receiving bytes ‹_›

end

theorem step_took {n : Nat} (h : 0 < n) (rest : List UInt8) (count : Nat) :
    (sending rest count).step (.took n) = send (rest.drop n) count := by
  simp only [step, restOf, if_neg (Nat.ne_of_gt h)]

theorem step_found {data : List UInt8} (h : data ≠ []) (sofar : List UInt8) (missing : Nat) :
    (receiving sofar missing).step (.found (.bytes data)) =
      receive (sofar ++ data) (missing - data.length) := by
  cases data with
  | nil => exact absurd rfl h
  | cons b data => rfl

end Exchange

/-! ## Both sides -/

/-- A client and its peer, with the bytes on their way between them. -/
structure Dialogue (Peer : Type) where
  client : Exchange
  /-- Bytes on their way to the peer. -/
  up : List UInt8 := []
  peer : Peer
  /-- Bytes on their way to the client. -/
  down : List UInt8 := []

section

variable {Peer : Type} {d d' : Dialogue Peer}

/-- What the client and the bytes on their way have before them. A byte counts for the less the
further it has come. -/
def Dialogue.toGo (d : Dialogue Peer) : Nat :=
  4 * d.client.unsent.length + 3 * d.up.length + d.down.length + d.client.turns

/-- What the client can do next. Its writes are taken in part or as a whole, and a read brings
something of what is on its way, but never more than is missing. -/
inductive ClientStep (d : Dialogue Peer) : Dialogue Peer → Prop where
  | write {rest : List UInt8} {count : Nat} (n : Nat) :
      d.client = .sending rest count → 0 < n → n ≤ rest.length →
      ClientStep d { d with client := d.client.step (.took n), up := d.up ++ rest.take n }
  | flush {count : Nat} :
      d.client = .flushing count → ClientStep d { d with client := d.client.step .flushed }
  | read {sofar : List UInt8} {missing : Nat} (n : Nat) :
      d.client = .receiving sofar missing → 0 < n → n ≤ missing → n ≤ d.down.length →
      ClientStep d
        { d with client := d.client.step (.found (.bytes (d.down.take n))), down := d.down.drop n }

/-- What a step of the client does to a dialogue. -/
structure Moves (d d' : Dialogue Peer) : Prop where
  peer : d'.peer = d.peer
  /-- What the client has written is on its way. -/
  sent : d'.up ++ d'.client.unsent = d.up ++ d.client.unsent
  /-- What the client has read was on its way. -/
  got : d'.client.got ++ d'.down = d.client.got ++ d.down
  wanted : d'.client.wanted = d.client.wanted
  going : d'.client.Going
  nearer : d'.toGo < d.toGo

theorem ClientStep.moves (s : ClientStep d d') : Moves d d' := by
  obtain ⟨client, up, peer, down⟩ := d
  cases s with
  | @write rest count n hclient hpositive hfits =>
    subst hclient
    have htaken : (rest.take n).length = n := List.length_take_of_le hfits
    simp only [Exchange.step_took hpositive]
    refine ⟨rfl, ?_, ?_, ?_, Exchange.send_going _ _, ?_⟩
    · show up ++ rest.take n ++ (Exchange.send (rest.drop n) count).unsent = up ++ rest
      rw [Exchange.send_unsent, List.append_assoc, List.take_append_drop]
    · show (Exchange.send (rest.drop n) count).got ++ down = [] ++ down
      rw [Exchange.send_got]
    · exact Exchange.send_wanted _ _
    · -- The bytes that were taken count for less on their way.
      show 4 * (Exchange.send (rest.drop n) count).unsent.length + 3 * (up ++ rest.take n).length +
        down.length + (Exchange.send (rest.drop n) count).turns <
          4 * rest.length + 3 * up.length + down.length + 2
      rw [Exchange.send_unsent, Exchange.send_turns, List.length_append, List.length_drop, htaken]
      omega
  | @flush count hclient =>
    subst hclient
    have hstep : (Exchange.flushing count).step .flushed = .receive [] count := rfl
    simp only [hstep]
    refine ⟨rfl, ?_, ?_, ?_, Exchange.receive_going _ _, ?_⟩
    · show up ++ (Exchange.receive [] count).unsent = up ++ []
      rw [Exchange.receive_unsent]
    · show (Exchange.receive [] count).got ++ down = [] ++ down
      rw [Exchange.receive_got]
    · show (Exchange.receive [] count).wanted = count
      rw [Exchange.receive_wanted, List.length_nil, Nat.zero_add]
    · have hturns := Exchange.receive_turns [] count
      show 4 * (Exchange.receive [] count).unsent.length + 3 * up.length + down.length +
        (Exchange.receive [] count).turns < 4 * 0 + 3 * up.length + down.length + 2
      rw [Exchange.receive_unsent, List.length_nil]
      omega
  | @read sofar missing n hclient hpositive hwanted hthere =>
    subst hclient
    have hthere : n ≤ down.length := hthere
    have hread : (down.take n).length = n := List.length_take_of_le hthere
    have hsome : down.take n ≠ [] := List.ne_nil_of_length_pos (by omega)
    simp only [Exchange.step_found hsome, hread]
    refine ⟨rfl, ?_, ?_, ?_, Exchange.receive_going _ _, ?_⟩
    · show up ++ (Exchange.receive (sofar ++ down.take n) (missing - n)).unsent = up ++ []
      rw [Exchange.receive_unsent]
    · show (Exchange.receive (sofar ++ down.take n) (missing - n)).got ++ down.drop n = sofar ++ down
      rw [Exchange.receive_got, List.append_assoc, List.take_append_drop]
    · show (Exchange.receive (sofar ++ down.take n) (missing - n)).wanted = sofar.length + missing
      rw [Exchange.receive_wanted, List.length_append, hread]
      omega
    · have hturns := Exchange.receive_turns (sofar ++ down.take n) (missing - n)
      show 4 * (Exchange.receive (sofar ++ down.take n) (missing - n)).unsent.length +
        3 * up.length + (down.drop n).length +
          (Exchange.receive (sofar ++ down.take n) (missing - n)).turns <
            4 * 0 + 3 * up.length + down.length + 1
      rw [Exchange.receive_unsent, List.length_nil, List.length_drop]
      omega

/-- A client that is going, and has not got everything, can do something or waits for its peer. -/
theorem ClientStep.exists_or (h : d.client.Going) :
    (∃ d', ClientStep d d') ∨ (∃ reply, d.client = .complete reply) ∨
      ∃ sofar missing, d.client = .receiving sofar missing ∧ missing ≠ 0 ∧ d.down = [] := by
  generalize hclient : d.client = client at h
  cases h with
  | @sending rest count hsome =>
    exact Or.inl ⟨_, .write rest.length hclient (List.length_pos_iff.mpr hsome) (Nat.le_refl _)⟩
  | flushing count => exact Or.inl ⟨_, .flush hclient⟩
  | complete reply => exact Or.inr (Or.inl ⟨reply, rfl⟩)
  | @receiving sofar missing hmissing =>
    cases hdown : d.down with
    | nil => exact Or.inr (Or.inr ⟨sofar, missing, rfl, hmissing, rfl⟩)
    | cons b down =>
      have hthere : 1 ≤ d.down.length := by rw [hdown]; exact Nat.le_add_left _ _
      exact Or.inl ⟨_, .read 1 hclient Nat.one_pos (Nat.one_le_iff_ne_zero.mpr hmissing) hthere⟩

/-- A client that has got everything does nothing more. -/
theorem ClientStep.not_complete {reply : List UInt8} (h : d.client = .complete reply) :
    ¬ ClientStep d d' := by
  intro s
  cases s with
  | write _ hclient | flush hclient | read _ hclient => cases h.symm.trans hclient

end

/-! ## Runs -/

/-- A run of so many steps. -/
inductive Steps {α : Type} (step : α → α → Prop) : Nat → α → α → Prop where
  | none (a : α) : Steps step 0 a a
  | more {k : Nat} {a b c : α} : Steps step k a b → step b c → Steps step (k + 1) a c

/-- What every step keeps a whole run keeps, and it is no longer than its steps can lower the
measure. -/
theorem Steps.keep {α : Type} {step : α → α → Prop} {kept : α → Prop} {measure : α → Nat}
    (hstep : ∀ a b, kept a → step a b → kept b ∧ measure b < measure a) {k : Nat} {a b : α}
    (h : kept a) (s : Steps step k a b) : kept b ∧ measure b + k ≤ measure a := by
  induction s with
  | none a => exact ⟨h, Nat.le_refl _⟩
  | more _ last ih =>
    obtain ⟨hkept, hmeasure⟩ := ih h
    obtain ⟨hnext, hlower⟩ := hstep _ _ hkept last
    exact ⟨hnext, by omega⟩

end BoundedTls
