import BoundedTls.Proofs.Config.Report
import BoundedTls.Proofs.Text.Quoted

/-!
# Messages of validation can be read back

The message about broken rules is one line that names the sections and tells of every rule, with
the texts at fault in quotes. Such a text may hold anything, even words that imitate another rule.
Still two reports have the same message only if they are the same report, and the message stays
one line.

## Architecture

- **One rule**: fixed words lead up to the text at fault, and no lead is the beginning of another,
  so messages of rules are self-delimiting.
- **All rules**: the messages stand behind the first colon of the whole message, where they can be
  told apart although one of them holds the separator.
- **Plain texts**: nothing in a message is a control character.
-/

namespace BoundedTls.Config

open BoundedTls.Text

/-! ## One rule -/

namespace Violation

/-- The words of a message up to the text at fault, or all of them if there is none. -/
def lead : Violation → String
  | badBindAddress _ => "listener.bind_address "
  | noConnections => "listener.max_connections must be greater than zero"
  | noTimeout => "handshake.timeout_ms must be greater than zero"
  | halfIdentity => "tls.cert_path and tls.key_path must be set together"
  | badServerName _ => "tls.server_name "
  | badLogLevel _ => "observability.log_level "

/-- The text at fault and the words behind it. -/
def rest : Violation → String
  | badBindAddress text => quoted text ++ " is not a socket address"
  | badServerName text => quoted text ++ " is not a valid DNS name or IP address"
  | badLogLevel text => quoted text ++ " is not one of trace, debug, info, warn, error"
  | noConnections | noTimeout | halfIdentity => ""

theorem message_eq (v : Violation) : v.message = v.lead ++ v.rest := by
  cases v with
  | badBindAddress text => exact String.append_assoc
  | badServerName text => exact String.append_assoc
  | badLogLevel text => exact String.append_assoc
  | noConnections => exact String.append_empty.symm
  | noTimeout => exact String.append_empty.symm
  | halfIdentity => exact String.append_empty.symm

/-- No lead is the beginning of that of another rule. -/
theorem place_eq_of_prefix_lead {v w : Violation} (h : v.lead.toList <+: w.lead.toList) :
    v.place = w.place := by
  revert h
  cases v <;> cases w <;> (simp only [lead, place]; decide)

theorem lead_eq_of_place_eq {v w : Violation} (h : v.place = w.place) : v.lead = w.lead := by
  revert h
  cases v <;> cases w <;> simp [lead, place]

theorem quoted_append_inj {s t words : String} {r r' : List Char}
    (h : (quoted s ++ words).toList ++ r = (quoted t ++ words).toList ++ r') : s = t ∧ r = r' := by
  simp only [String.toList_append, List.append_assoc] at h
  obtain ⟨hsame, hwords⟩ := quoted_selfDelimiting h
  exact ⟨hsame, List.append_cancel_left hwords⟩

/-- Behind the same lead the text at fault tells the rest. -/
theorem rest_append_inj {v w : Violation} {r r' : List Char} (hplace : v.place = w.place)
    (h : v.rest.toList ++ r = w.rest.toList ++ r') : v = w ∧ r = r' := by
  cases v with
  | badBindAddress s =>
    cases w with
    | badBindAddress t => exact (quoted_append_inj h).imp_left (congrArg _)
    | _ => cases hplace
  | badServerName s =>
    cases w with
    | badServerName t => exact (quoted_append_inj h).imp_left (congrArg _)
    | _ => cases hplace
  | badLogLevel s =>
    cases w with
    | badLogLevel t => exact (quoted_append_inj h).imp_left (congrArg _)
    | _ => cases hplace
  | noConnections =>
    cases w with
    | noConnections => exact ⟨rfl, h⟩
    | _ => cases hplace
  | noTimeout =>
    cases w with
    | noTimeout => exact ⟨rfl, h⟩
    | _ => cases hplace
  | halfIdentity =>
    cases w with
    | halfIdentity => exact ⟨rfl, h⟩
    | _ => cases hplace

/-- **The message about a rule is self-delimiting.** -/
theorem message_selfDelimiting : SelfDelimiting fun v : Violation => v.message.toList := by
  intro v w r r' h
  simp only [message_eq, String.toList_append, List.append_assoc] at h
  have hplace : v.place = w.place := by
    rcases List.prefix_or_prefix_of_prefix (List.prefix_append _ _)
      (h ▸ List.prefix_append w.lead.toList _) with hfirst | hsecond
    · exact place_eq_of_prefix_lead hfirst
    · exact (place_eq_of_prefix_lead hsecond).symm
  rw [lead_eq_of_place_eq hplace] at h
  exact rest_append_inj hplace (List.append_cancel_left h)

theorem message_ne_nil (v : Violation) : v.message.toList ≠ [] := by
  rw [message_eq, String.toList_append]
  cases v <;> exact List.append_ne_nil_of_left_ne_nil (by simp only [lead]; decide) _

/-- No message holds a control character, whatever the text at fault is. -/
theorem message_plain (v : Violation) : ∀ c ∈ v.message.toList, isAsciiControl c = false := by
  have hquoted {text words : String} (hwords : ∀ c ∈ words.toList, isAsciiControl c = false) :
      ∀ c ∈ (quoted text ++ words).toList, isAsciiControl c = false := by
    rw [String.toList_append]
    exact List.forall_mem_append.mpr ⟨quoted_plain text, hwords⟩
  rw [message_eq, String.toList_append]
  refine List.forall_mem_append.mpr ⟨?_, ?_⟩
  · exact forall_mem_of_all (by cases v <;> (simp only [lead]; decide))
  · cases v with
    | badBindAddress | badServerName | badLogLevel =>
      exact hquoted (forall_mem_of_all (by decide))
    | noConnections | noTimeout | halfIdentity => exact forall_mem_of_all rfl

end Violation

/-! ## All rules -/

/-- What holds of the characters of all items and of the separator holds of those between them. -/
theorem forall_mem_intercalate {p : Char → Prop} {sep : String} {items : List String}
    (hsep : ∀ c ∈ sep.toList, p c) (hitems : ∀ s ∈ items, ∀ c ∈ s.toList, p c) :
    ∀ c ∈ (sep.intercalate items).toList, p c := by
  induction items with
  | nil => simp
  | cons s items ih =>
    have hfirst := hitems s List.mem_cons_self
    cases items with
    | nil => simpa using hfirst
    | cons t items =>
      rw [String.intercalate_cons_cons, String.toList_append, String.toList_append]
      have hrest := ih fun u hu => hitems u (List.mem_cons_of_mem s hu)
      exact List.forall_mem_append.mpr ⟨List.forall_mem_append.mpr ⟨hfirst, hsep⟩, hrest⟩

/-- The words of a message up to its first colon. -/
def headerOf (sections : List SectionName) : String :=
  "Invalid [" ++ "], [".intercalate (sections.map SectionName.text) ++ "] configuration"

/-- What holds of the characters of the words and of the names holds of those of a header. -/
theorem forall_mem_headerOf {p : Char → Prop} [DecidablePred p]
    (hwords : ∀ s ∈ ["Invalid [", "], [", "] configuration"],
      s.toList.all (fun c => decide (p c)) = true)
    (hnames : ∀ n : SectionName, n.text.toList.all (fun c => decide (p c)) = true)
    (sections : List SectionName) : ∀ c ∈ (headerOf sections).toList, p c := by
  have hsections : ∀ c ∈ ("], [".intercalate (sections.map SectionName.text)).toList, p c := by
    refine forall_mem_intercalate (forall_mem_of_all (hwords _ (by simp))) ?_
    intro s hs
    obtain ⟨n, -, rfl⟩ := List.mem_map.mp hs
    exact forall_mem_of_all (hnames n)
  rw [headerOf, String.toList_append, String.toList_append]
  exact List.forall_mem_append.mpr ⟨List.forall_mem_append.mpr
    ⟨forall_mem_of_all (hwords _ (by simp)), hsections⟩, forall_mem_of_all (hwords _ (by simp))⟩

theorem colon_not_mem_headerOf (sections : List SectionName) :
    ':' ∉ (headerOf sections).toList := by
  have hother : ∀ c ∈ (headerOf sections).toList, c ≠ ':' :=
    forall_mem_headerOf (by decide) (fun n => by cases n <;> decide) sections
  exact fun hmem => hother ':' hmem rfl

theorem headerOf_plain (sections : List SectionName) :
    ∀ c ∈ (headerOf sections).toList, isAsciiControl c = false :=
  forall_mem_headerOf (by decide) (fun n => by cases n <;> decide) sections

namespace LoadError

variable {vs ws : List Violation}

/-- The messages about the rules, one behind the other. -/
def body (vs : List Violation) : String :=
  ", ".intercalate (vs.map Violation.message)

theorem message_invalid (vs : List Violation) :
    (invalid vs).message = headerOf (invalid vs).failedSections ++ (": " ++ body vs) := by
  have hcolon : "] configuration: " = "] configuration" ++ ": " := by decide
  simp only [message, headerOf, body, hcolon, String.append_assoc]

theorem body_inj (h : body vs = body ws) : vs = ws := by
  have hlists := congrArg String.toList h
  simp only [body, String.toList_intercalate, List.map_map] at hlists
  exact Violation.message_selfDelimiting.intercalate_inj Violation.message_ne_nil hlists

theorem body_plain (vs : List Violation) : ∀ c ∈ (body vs).toList, isAsciiControl c = false := by
  refine forall_mem_intercalate (forall_mem_of_all (by decide)) ?_
  intro s hs
  obtain ⟨v, -, rfl⟩ := List.mem_map.mp hs
  exact v.message_plain

/-- A header and what follows it can be told apart, since the header ends at the first colon. -/
theorem header_body_inj {ns ms : List SectionName}
    (h : headerOf ns ++ (": " ++ body vs) = headerOf ms ++ (": " ++ body ws)) :
    headerOf ns = headerOf ms ∧ vs = ws := by
  have hsplit (ns : List SectionName) (us : List Violation) :
      (headerOf ns ++ (": " ++ body us)).toList =
        (headerOf ns).toList ++ ':' :: (' ' :: (body us).toList) := by
    rw [String.toList_append, String.toList_append]
    rfl
  have hlists := congrArg String.toList h
  rw [hsplit, hsplit] at hlists
  obtain ⟨hheaders, hbehind⟩ :=
    append_stop_inj (colon_not_mem_headerOf _) (colon_not_mem_headerOf _) hlists
  exact ⟨String.toList_inj.mp hheaders,
    body_inj (String.toList_inj.mp (List.cons.inj hbehind).2)⟩

/-- **Different reports have different messages**, since the messages about their rules stand behind
the first colon. -/
theorem eq_of_message_eq (h : (invalid vs).message = (invalid ws).message) : vs = ws := by
  rw [message_invalid, message_invalid] at h
  exact (header_body_inj h).2

/-- **The message of a report is one line.** -/
theorem message_plain (vs : List Violation) :
    ∀ c ∈ (invalid vs).message.toList, isAsciiControl c = false := by
  rw [message_invalid, String.toList_append, String.toList_append]
  exact List.forall_mem_append.mpr
    ⟨headerOf_plain _,
      List.forall_mem_append.mpr ⟨forall_mem_of_all (by decide), body_plain vs⟩⟩

/-- **What validation says can be neither forged nor broken up.** Two reports are told alike only if
they are the same report, whatever the texts at fault imitate, and no message holds a line break or
any other control character. -/
theorem messages_tell_reports_apart (vs ws : List Violation) :
    ((invalid vs).message = (invalid ws).message ↔ vs = ws) ∧
      ∀ c ∈ (invalid vs).message.toList, isAsciiControl c = false :=
  ⟨⟨eq_of_message_eq, fun h => h ▸ rfl⟩, message_plain vs⟩

/-- An address that closes its quotes and begins another line stays inside them. -/
example : (invalid [.badBindAddress "a\" is fine\n"]).message =
    "Invalid [listener] configuration: " ++
      "listener.bind_address \"a\\\" is fine\\n\" is not a socket address" := by
  decide +kernel

end LoadError

end BoundedTls.Config
