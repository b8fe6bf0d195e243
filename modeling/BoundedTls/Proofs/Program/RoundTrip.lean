import BoundedTls.Program.Run
import BoundedTls.Proofs.Program.Dialogue
import BoundedTls.Proofs.Program.Echoing
import BoundedTls.Proofs.Text.Utf8

/-!
# Round trips

A client sends its message to an echo and gets exactly the message back, whatever the pieces in
which the bytes travel in either direction and whichever side goes next. A peer that answers
something else is taken at its word: the client gets as many bytes of the answer as its message
had, or fails if the peer closes before that.

## Architecture

- **Echoing peers**: each byte of the message is in one place, and the places follow one another in
  the order of the message (`Conveys`).
- **Answering peers**: the same for the bytes of the answer (`Answers`).
- **Prints**: the reply of an echo is printed as the text that was sent.

A client and an echo that have nothing left to do are done: as long as the stream takes what is
written and brings what was written, neither waits for the other in vain.
-/

namespace BoundedTls

open BoundedTls.Network BoundedTls.Program

/-! ## A peer that echoes -/

/-- What a client and an echo can do next. -/
inductive EchoStep (d : Dialogue Echo) : Dialogue Echo → Prop where
  | client {d' : Dialogue Echo} : ClientStep d d' → EchoStep d d'
  /-- The echo reads something of what is on its way. -/
  | read (n : Nat) : d.peer = .reading → 0 < n → n ≤ chunkLimit → n ≤ d.up.length →
      EchoStep d { d with peer := d.peer.step (.found (.bytes (d.up.take n))), up := d.up.drop n }
  /-- The stream takes something of what the echo writes. -/
  | write {rest : List UInt8} (n : Nat) : d.peer = .writing rest → 0 < n → n ≤ rest.length →
      EchoStep d { d with peer := d.peer.step (.took n), down := d.down ++ rest.take n }

/-- A client with its message, and an echo. -/
def Dialogue.withEcho (message : List UInt8) : Dialogue Echo :=
  { client := .start message, peer := .reading }

/-- The message is all there: what has come back, what is on its way back, what the echo holds and
what is still to reach it make up the message in this order. -/
structure Conveys (message : List UInt8) (d : Dialogue Echo) : Prop where
  whole : d.client.got ++ d.down ++ d.peer.unsent ++ (d.up ++ d.client.unsent) = message
  wanted : d.client.wanted = message.length
  going : d.client.Going
  peer : d.peer = .reading ∨ ∃ rest, d.peer = .writing rest ∧ rest ≠ []

section

variable {message : List UInt8} {d d' : Dialogue Echo}

/-- What is left to do before the message is back. -/
def echoToGo (d : Dialogue Echo) : Nat :=
  d.toGo + 2 * d.peer.unsent.length

theorem Conveys.start (message : List UInt8) : Conveys message (.withEcho message) where
  whole := by
    show (Exchange.send message message.length).got ++ [] ++ [] ++
      ([] ++ (Exchange.send message message.length).unsent) = message
    rw [Exchange.send_got, Exchange.send_unsent]
    rfl
  wanted := Exchange.send_wanted message message.length
  going := Exchange.send_going message message.length
  peer := Or.inl rfl

theorem echoToGo_start (message : List UInt8) :
    echoToGo (.withEcho message) = 4 * message.length + 2 := by
  show 4 * (Exchange.send message message.length).unsent.length + 3 * 0 + 0 +
    (Exchange.send message message.length).turns + 2 * 0 = 4 * message.length + 2
  rw [Exchange.send_unsent, Exchange.send_turns]

/-- **No step loses a byte**, and every step brings the message nearer to its end. -/
theorem Conveys.step (h : Conveys message d) (s : EchoStep d d') :
    Conveys message d' ∧ echoToGo d' < echoToGo d := by
  cases s with
  | client s =>
    have hmoves := s.moves
    refine ⟨⟨?_, hmoves.wanted.trans h.wanted, hmoves.going, hmoves.peer ▸ h.peer⟩, ?_⟩
    · rw [hmoves.got, hmoves.peer, hmoves.sent]
      exact h.whole
    · have hnearer := hmoves.nearer
      simp only [echoToGo, hmoves.peer]
      omega
  | read n hpeer hpositive hlimit hthere =>
    obtain ⟨client, up, peer, down⟩ := d
    cases hpeer
    have hthere : n ≤ up.length := hthere
    have hread : (up.take n).length = n := List.length_take_of_le hthere
    have hsome : up.take n ≠ [] := List.ne_nil_of_length_pos (by omega)
    simp only [Echo.step_found hsome]
    refine ⟨⟨?_, h.wanted, h.going, Or.inr ⟨_, rfl, hsome⟩⟩, ?_⟩
    · have hwhole := h.whole
      simp only [Echo.unsent, List.append_nil] at hwhole ⊢
      rw [List.append_assoc _ (up.take n), ← List.append_assoc (up.take n), List.take_append_drop]
      exact hwhole
    · simp only [echoToGo, Dialogue.toGo, Echo.unsent, List.length_drop, hread, List.length_nil]
      omega
  | @write rest n hpeer hpositive hfits =>
    obtain ⟨client, up, peer, down⟩ := d
    cases hpeer
    have htaken : (rest.take n).length = n := List.length_take_of_le hfits
    have hleft := Echo.step_took_unsent hpositive rest
    refine ⟨⟨?_, h.wanted, h.going, ?_⟩, ?_⟩
    · show client.got ++ (down ++ rest.take n) ++ ((Echo.writing rest).step (.took n)).unsent ++
        (up ++ client.unsent) = message
      rw [hleft, ← List.append_assoc client.got, List.append_assoc _ (rest.take n),
        List.take_append_drop]
      exact h.whole
    · simp only [Echo.step_took hpositive]
      split
      · exact Or.inl rfl
      · exact Or.inr ⟨_, rfl, ‹_›⟩
    · have hheld : (Echo.writing rest).unsent.length = rest.length := rfl
      simp only [echoToGo, Dialogue.toGo, hleft, hheld, List.length_append, List.length_drop, htaken]
      omega

/-- A reply of the right length is the message, and nothing is left on the way. -/
theorem Conveys.complete (h : Conveys message d) {reply : List UInt8}
    (hclient : d.client = .complete reply) :
    reply = message ∧ d.down = [] ∧ d.peer.unsent = [] ∧ d.up = [] := by
  have hlength : reply.length = message.length := by simpa [hclient, Exchange.wanted] using h.wanted
  have hwhole := h.whole
  rw [hclient] at hwhole
  simp only [Exchange.got, Exchange.unsent, List.append_assoc] at hwhole
  have hrest : d.down ++ (d.peer.unsent ++ (d.up ++ [])) = [] := by
    apply List.eq_nil_of_length_eq_zero
    have hlengths := congrArg List.length hwhole
    rw [List.length_append] at hlengths
    omega
  rw [hrest, List.append_nil] at hwhole
  simp only [List.append_eq_nil_iff] at hrest
  exact ⟨hwhole, hrest.1, hrest.2.1, hrest.2.2.1⟩

/-- **Neither side waits in vain.** As long as the reply is not complete, one side can do
something. -/
theorem Conveys.proceeds (h : Conveys message d) (hnot : d.client ≠ .complete message) :
    ∃ d', EchoStep d d' := by
  obtain ⟨d', s⟩ | ⟨reply, hreply⟩ | ⟨sofar, missing, hclient, hmissing, hdown⟩ :=
    ClientStep.exists_or h.going
  · exact ⟨d', .client s⟩
  · exact absurd (hreply.trans (congrArg _ (h.complete hreply).1)) hnot
  · obtain hreading | ⟨rest, hwriting, hrest⟩ := h.peer
    · -- The client waits for bytes that the echo has not read yet.
      have hup : d.up ≠ [] := by
        intro hup
        have hwhole := h.whole
        have hwanted := h.wanted
        rw [hclient, hdown, hreading, hup] at hwhole
        rw [hclient] at hwanted
        simp only [Exchange.got, Exchange.unsent, Echo.unsent, List.append_nil] at hwhole
        simp only [Exchange.wanted, hwhole] at hwanted
        omega
      exact ⟨_, .read 1 hreading Nat.one_pos (by decide) (List.length_pos_iff.mpr hup)⟩
    · exact ⟨_, .write 1 hwriting Nat.one_pos (List.length_pos_iff.mpr hrest)⟩

/-- Once the reply is complete nothing is left to do. -/
theorem Conveys.rests (h : Conveys message d) (hclient : d.client = .complete message) :
    ¬ EchoStep d d' := by
  obtain ⟨-, -, hpeer, hup⟩ := h.complete hclient
  intro s
  cases s with
  | client s => exact ClientStep.not_complete hclient s
  | read n _ hpositive _ hthere =>
    rw [hup] at hthere
    exact absurd hthere (Nat.not_le_of_gt hpositive)
  | write n hwriting hpositive hfits =>
    rw [hwriting] at hpeer
    cases hpeer
    exact absurd hfits (Nat.not_le_of_gt hpositive)

end

/-- What becomes of a message that is sent to an echo. -/
structure ComesBack (message : List UInt8) : Prop where
  /-- However the two take turns, they come to an end. -/
  ends : ∀ k d, Steps EchoStep k (.withEcho message) d → k ≤ 4 * message.length + 2
  never_fails : ∀ k d, Steps EchoStep k (.withEcho message) d → ∀ fault, d.client ≠ .failed fault
  exact : ∀ k d, Steps EchoStep k (.withEcho message) d → ∀ reply,
    d.client = .complete reply → reply = message
  /-- The end is the whole reply, and nothing else is. -/
  returns : ∀ k d, Steps EchoStep k (.withEcho message) d →
    ((¬ ∃ d', EchoStep d d') ↔ d.client = .complete message)

theorem comesBack (message : List UInt8) : ComesBack message := by
  have hkept {k : Nat} {d : Dialogue Echo} (s : Steps EchoStep k (.withEcho message) d) :
      Conveys message d ∧ echoToGo d + k ≤ echoToGo (.withEcho message) :=
    s.keep (fun _ _ h s => h.step s) (Conveys.start message)
  refine ⟨?_, ?_, ?_, ?_⟩
  · intro k d s
    have hbound := (hkept s).2
    rw [echoToGo_start] at hbound
    omega
  · intro k d s fault hfailed
    have hgoing := (hkept s).1.going
    rw [hfailed] at hgoing
    cases hgoing
  · exact fun k d s reply hclient => ((hkept s).1.complete hclient).1
  · intro k d s
    constructor
    · intro hstuck
      apply Classical.byContradiction
      intro hnot
      exact hstuck ((hkept s).1.proceeds hnot)
    · rintro hclient ⟨d', next⟩
      exact (hkept s).1.rests hclient next

/-! ## A peer that answers -/

/-- A peer that takes a message, sends an answer and closes. -/
structure Answerer where
  /-- The bytes of the message that it has not taken yet. -/
  awaits : Nat
  /-- What it has still to send. -/
  answer : List UInt8
  closed : Bool := false

/-- What reading finds at the end of a stream: a farewell, or a fault if there was none. -/
def endOf : Option Fault → Arrival
  | none => .farewell
  | some fault => .lost fault

/-- The fault of an exchange whose stream has ended too early. -/
def faultAtEnd (missed : Option Fault) : Fault :=
  missed.getD .earlyEnd

/-- What a client and an answering peer can do next. The peer may send before it has taken all,
but closes only after it has taken and sent all; `missed` is the fault that its end brings, if it
ends without a farewell. -/
inductive AnswerStep (missed : Option Fault) (d : Dialogue Answerer) : Dialogue Answerer → Prop where
  | client {d' : Dialogue Answerer} : ClientStep d d' → AnswerStep missed d d'
  | take (n : Nat) : 0 < n → n ≤ d.peer.awaits → n ≤ d.up.length →
      AnswerStep missed d
        { d with peer := { d.peer with awaits := d.peer.awaits - n }, up := d.up.drop n }
  | answer (n : Nat) : 0 < n → n ≤ d.peer.answer.length →
      AnswerStep missed d
        { d with
          peer := { d.peer with answer := d.peer.answer.drop n }
          down := d.down ++ d.peer.answer.take n }
  | close : d.peer.awaits = 0 → d.peer.answer = [] → d.peer.closed = false →
      AnswerStep missed d { d with peer := { d.peer with closed := true } }
  /-- The client reads to the end of the stream. -/
  | learn {sofar : List UInt8} {missing : Nat} :
      d.client = .receiving sofar missing → d.down = [] → d.peer.closed = true →
      AnswerStep missed d { d with client := d.client.step (.found (endOf missed)) }

/-- A client with its message, and a peer with its answer. -/
def Dialogue.withAnswer (message answer : List UInt8) : Dialogue Answerer :=
  { client := .start message, peer := { awaits := message.length, answer } }

/-- What holds of a client and an answering peer at all times. -/
structure Answers (message answer : List UInt8) (missed : Option Fault) (d : Dialogue Answerer) :
    Prop where
  /-- What the peer has not taken is on its way or still to be sent. -/
  sent : d.up.length + d.client.unsent.length = d.peer.awaits
  /-- A client that has not failed has got the first part of the answer. -/
  going : d.client.Going → d.client.got ++ d.down ++ d.peer.answer = answer ∧
    d.client.wanted = message.length
  /-- A client fails only for want of bytes. -/
  failed : d.client.Going ∨
    d.client = .failed (faultAtEnd missed) ∧ answer.length < message.length
  closed : d.peer.closed = true → d.peer.awaits = 0 ∧ d.peer.answer = []

section

variable {message answer : List UInt8} {missed : Option Fault} {d d' : Dialogue Answerer}

/-- What is left to do before the peer is closed and the client is done. -/
def answerToGo (d : Dialogue Answerer) : Nat :=
  d.toGo + 2 * d.peer.answer.length + if d.peer.closed then 0 else 1

theorem Answers.start (message answer : List UInt8) (missed : Option Fault) :
    Answers message answer missed (.withAnswer message answer) where
  sent := by
    show 0 + (Exchange.send message message.length).unsent.length = message.length
    rw [Exchange.send_unsent, Nat.zero_add]
  going := by
    intro _
    refine ⟨?_, Exchange.send_wanted message message.length⟩
    show (Exchange.send message message.length).got ++ [] ++ answer = answer
    rw [Exchange.send_got]
    rfl
  failed := Or.inl (Exchange.send_going message message.length)
  closed := by
    intro hclosed
    cases hclosed

theorem answerToGo_start (message answer : List UInt8) :
    answerToGo (.withAnswer message answer) = 4 * message.length + 2 * answer.length + 3 := by
  show 4 * (Exchange.send message message.length).unsent.length + 3 * 0 + 0 +
    (Exchange.send message message.length).turns + 2 * answer.length + 1 = _
  rw [Exchange.send_unsent, Exchange.send_turns]
  omega

/-- A client that has done something was going before. -/
theorem ClientStep.going (s : ClientStep d d')
    (h : d.client.Going ∨ ∃ fault, d.client = .failed fault) :
    d.client.Going := by
  rcases h with hgoing | ⟨fault, hfailed⟩
  · exact hgoing
  · cases s with
    | write _ hclient | flush hclient | read _ hclient => cases hfailed.symm.trans hclient

theorem endOf_hear (missed : Option Fault) (sofar : List UInt8) (missing : Nat) :
    (Exchange.receiving sofar missing).step (.found (endOf missed)) =
      .failed (faultAtEnd missed) := by
  cases missed <;> rfl

/-- **No step loses a byte of the answer**, and every step brings the dialogue nearer to its end. -/
theorem Answers.step (h : Answers message answer missed d) (s : AnswerStep missed d d') :
    Answers message answer missed d' ∧ answerToGo d' < answerToGo d := by
  cases s with
  | client s =>
    have hmoves := s.moves
    have hgoing := s.going (h.failed.imp_right fun hfailed => ⟨_, hfailed.1⟩)
    obtain ⟨hanswer, hwanted⟩ := h.going hgoing
    refine ⟨⟨?_, fun _ => ⟨?_, hmoves.wanted.trans hwanted⟩, Or.inl hmoves.going, ?_⟩, ?_⟩
    · have hsent := congrArg List.length hmoves.sent
      simp only [List.length_append] at hsent
      rw [hsent, hmoves.peer]
      exact h.sent
    · rw [hmoves.got, hmoves.peer]
      exact hanswer
    · rw [hmoves.peer]
      exact h.closed
    · have hnearer := hmoves.nearer
      simp only [answerToGo, hmoves.peer]
      omega
  | take n hpositive hawaited hthere =>
    refine ⟨⟨?_, h.going, h.failed, ?_⟩, ?_⟩
    · have hsent := h.sent
      simp only [List.length_drop]
      omega
    · intro hclosed
      obtain ⟨hawaits, hanswer⟩ := h.closed hclosed
      exact ⟨by simp [hawaits], hanswer⟩
    · simp only [answerToGo, Dialogue.toGo, List.length_drop]
      omega
  | answer n hpositive hfits =>
    have htaken : (d.peer.answer.take n).length = n := List.length_take_of_le hfits
    refine ⟨⟨h.sent, ?_, h.failed, ?_⟩, ?_⟩
    · intro hgoing
      obtain ⟨hanswer, hwanted⟩ := h.going hgoing
      refine ⟨?_, hwanted⟩
      show d.client.got ++ (d.down ++ d.peer.answer.take n) ++ d.peer.answer.drop n = answer
      rw [← List.append_assoc, List.append_assoc _ (d.peer.answer.take n), List.take_append_drop]
      exact hanswer
    · intro hclosed
      obtain ⟨hawaits, hnone⟩ := h.closed hclosed
      exact ⟨hawaits, by simp [hnone]⟩
    · simp only [answerToGo, Dialogue.toGo, List.length_append, List.length_drop, htaken]
      omega
  | close hawaits hanswer hopen =>
    refine ⟨⟨h.sent, h.going, h.failed, fun _ => ⟨hawaits, hanswer⟩⟩, ?_⟩
    simp only [answerToGo, Dialogue.toGo, hopen]
    simp
  | @learn sofar missing hclient hdown hclosed =>
    -- Everything was sent and has arrived, and it was not enough.
    obtain ⟨hawaits, hnone⟩ := h.closed hclosed
    have hgoing : d.client.Going := by
      rcases h.failed with hgoing | ⟨hfailed, -⟩
      · exact hgoing
      · cases hclient.symm.trans hfailed
    obtain ⟨hanswer, hwanted⟩ := h.going hgoing
    have hsent := h.sent
    rw [hclient] at hgoing hanswer hwanted hsent
    have hmissing : missing ≠ 0 := by
      cases hgoing with
      | receiving _ hmissing => exact hmissing
    have hshort : answer.length < message.length := by
      rw [hdown, hnone, List.append_nil, List.append_nil] at hanswer
      rw [← hwanted, ← hanswer]
      exact Nat.lt_add_of_pos_right (Nat.pos_of_ne_zero hmissing)
    simp only [hclient, endOf_hear]
    refine ⟨⟨hsent, ?_, Or.inr ⟨rfl, hshort⟩, h.closed⟩, ?_⟩
    · intro hgoing
      cases hgoing
    · simp only [answerToGo, Dialogue.toGo, hclient, Exchange.unsent, Exchange.turns]
      omega

/-- A complete reply is the first part of the answer. -/
theorem Answers.complete (h : Answers message answer missed d) {reply : List UInt8}
    (hclient : d.client = .complete reply) :
    message.length ≤ answer.length ∧ reply = answer.take message.length := by
  obtain ⟨hanswer, hwanted⟩ := h.going (by rw [hclient]; exact .complete reply)
  rw [hclient] at hanswer hwanted
  have hlength : reply.length = message.length := hwanted
  have hprefix : reply <+: answer := ⟨_, by rw [← hanswer, List.append_assoc]; rfl⟩
  exact ⟨hlength ▸ hprefix.length_le, hlength ▸ List.prefix_iff_eq_take.mp hprefix⟩

/-- As long as the client is not done, one side can do something. -/
theorem Answers.proceeds (h : Answers message answer missed d)
    (hnone : ¬ ∃ d', AnswerStep missed d d') :
    (∃ reply, d.client = .complete reply) ∨ d.client = .failed (faultAtEnd missed) := by
  rcases h.failed with hgoing | ⟨hfailed, -⟩
  · obtain ⟨d', s⟩ | hcomplete | ⟨sofar, missing, hclient, hmissing, hdown⟩ :=
      ClientStep.exists_or hgoing
    · exact absurd ⟨d', .client s⟩ hnone
    · exact Or.inl hcomplete
    · -- The peer takes what is on its way, sends what it has, and closes, in this order.
      apply absurd _ hnone
      have hsent := h.sent
      rw [hclient] at hsent
      simp only [Exchange.unsent, List.length_nil, Nat.add_zero] at hsent
      by_cases hawaits : d.peer.awaits = 0
      · cases hanswer : d.peer.answer with
        | cons b answer =>
          exact ⟨_, .answer 1 Nat.one_pos (by rw [hanswer]; exact Nat.le_add_left _ _)⟩
        | nil =>
          cases hclosed : d.peer.closed with
          | false => exact ⟨_, .close hawaits hanswer hclosed⟩
          | true => exact ⟨_, .learn hclient hdown hclosed⟩
      · exact ⟨_, .take 1 Nat.one_pos (by omega) (by omega)⟩
  · exact Or.inr hfailed

end

/-- What a client makes of an answer. -/
structure Takes (message answer : List UInt8) (missed : Option Fault) : Prop where
  ends : ∀ k d, Steps (AnswerStep missed) k (.withAnswer message answer) d →
    k ≤ 4 * message.length + 2 * answer.length + 3
  exact : ∀ k d, Steps (AnswerStep missed) k (.withAnswer message answer) d → ∀ reply,
    d.client = .complete reply →
      message.length ≤ answer.length ∧ reply = answer.take message.length
  fails : ∀ k d, Steps (AnswerStep missed) k (.withAnswer message answer) d → ∀ fault,
    d.client = .failed fault → answer.length < message.length
  /-- Once nothing is left to do the client has the first part of the answer, or has failed because
  the answer was too short. -/
  returns : ∀ k d, Steps (AnswerStep missed) k (.withAnswer message answer) d →
    (¬ ∃ d', AnswerStep missed d d') →
      d.client = if message.length ≤ answer.length then .complete (answer.take message.length)
        else .failed (faultAtEnd missed)

theorem takes (message answer : List UInt8) (missed : Option Fault) :
    Takes message answer missed := by
  have hkept {k : Nat} {d : Dialogue Answerer}
      (s : Steps (AnswerStep missed) k (.withAnswer message answer) d) :
      Answers message answer missed d ∧ answerToGo d + k ≤ answerToGo (.withAnswer message answer) :=
    s.keep (fun _ _ h s => h.step s) (Answers.start message answer missed)
  have hfails {k : Nat} {d : Dialogue Answerer}
      (s : Steps (AnswerStep missed) k (.withAnswer message answer) d) (fault : Fault)
      (hfailed : d.client = .failed fault) : answer.length < message.length := by
    rcases (hkept s).1.failed with hgoing | ⟨-, hshort⟩
    · rw [hfailed] at hgoing
      cases hgoing
    · exact hshort
  refine ⟨?_, fun k d s reply hclient => (hkept s).1.complete hclient, fun k d => hfails, ?_⟩
  · intro k d s
    have hbound := (hkept s).2
    rw [answerToGo_start] at hbound
    omega
  · intro k d s hnone
    rcases (hkept s).1.proceeds hnone with ⟨reply, hcomplete⟩ | hfailed
    · obtain ⟨henough, hreply⟩ := (hkept s).1.complete hcomplete
      rw [if_pos henough, hcomplete, hreply]
    · rw [if_neg (Nat.not_le_of_gt (hfails s _ hfailed)), hfailed]

/-! ## All round trips -/

/-- The reply to a text that was echoed is printed as the text. -/
theorem printReply_encode (p : Process) (text : String) :
    p.printReply (Text.Utf8.encode text) = p.print text := by
  rw [Process.printReply, Text.Utf8.decodeLossy_encode, String.ofList_toList]

/-- **Echoes are faithful.** Whatever happens to the stream of an echo, the bytes that it has
written are the first of those that it has read, all of them whenever it reads again; it is over
only by the end of the stream or by the first fault of a read or of a write. So a client gets its
message back from an echo, whole, exactly and in a bounded number of steps, however the streams cut
it up, and prints the text that it has sent. From a peer with an answer of its own it gets as many
bytes as its message had, and fails exactly if the peer has sent fewer before it closed. -/
theorem echo_is_faithful :
    (∀ events, let r := ({} : Echoing).run events
      r.written <+: r.read ∧ (r.echo = .reading → r.written = r.read) ∧
        (r.echo.isOver = true → ∃ before event after, events = before ++ event :: after ∧
          (({} : Echoing).run before).echo.isOver = false ∧
          Echo.Ends (({} : Echoing).run before).echo event r.echo)) ∧
      (∀ message, ComesBack message) ∧
      (∀ message answer missed, Takes message answer missed) ∧
      (∀ (p : Process) (text : String), p.printReply (Text.Utf8.encode text) = p.print text) := by
  refine ⟨?_, comesBack, takes, printReply_encode⟩
  intro events r
  have hkept : r.KeepsUp := Echoing.keepsUp_run Echoing.new_keepsUp events
  refine ⟨hkept.behind, ?_, Echoing.ended_by rfl events⟩
  intro hreading
  have howes := hkept.owes (by simp [hreading])
  rw [hreading] at howes
  simpa [Echo.unsent] using howes.symm

end BoundedTls
