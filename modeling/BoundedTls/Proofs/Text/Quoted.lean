import BoundedTls.Text.Numeral
import BoundedTls.Text.Quoted
import Mathlib.Data.List.Basic

/-!
# Quoted texts can be told apart

A quoted text shows where it ends, since every quote inside it stands behind a backslash. So there
is one way only to take it off the front of a longer text, and nothing that is quoted can pass for
the words around it. It holds no control character either, whatever was quoted.

## Architecture

- **Self-delimiting writings**: two of them with something behind each are the same text only if
  they write the same (`SelfDelimiting`). Lists of them can be told apart too.
- **Escapes**: one character is read back from the front of a text (`readEscaped?`).
- **Quotes**: quoted texts are self-delimiting and plain.
-/

namespace BoundedTls.Text

/-! ## Self-delimiting writings -/

/-- What is written shows where it ends, whatever follows. -/
def SelfDelimiting {α : Type} (write : α → List Char) : Prop :=
  ∀ ⦃a b : α⦄ ⦃r r' : List Char⦄, write a ++ r = write b ++ r' → a = b ∧ r = r'

section

variable {α : Type} {write : α → List Char}

/-- What can be read back from the front of a text is self-delimiting. -/
theorem SelfDelimiting.of_read {read? : List Char → Option (α × List Char)}
    (h : ∀ a r, read? (write a ++ r) = some (a, r)) : SelfDelimiting write := by
  intro a b r r' heq
  have hread : some (a, r) = some (b, r') := by rw [← h a r, heq, h b r']
  exact Prod.mk.inj (Option.some.inj hread)

/-- So is a writing in which nothing is the beginning of something else. -/
theorem SelfDelimiting.of_prefix_free (h : ∀ a b, write a <+: write b → a = b) :
    SelfDelimiting write := by
  intro a b r r' heq
  have hsame : a = b := by
    rcases List.prefix_or_prefix_of_prefix (List.prefix_append (write a) r)
      (heq ▸ List.prefix_append (write b) r') with hfirst | hsecond
    · exact h a b hfirst
    · exact (h b a hsecond).symm
  subst hsame
  exact ⟨rfl, List.append_cancel_left heq⟩

/-- Lists of self-delimiting writings can be told apart, one behind the other. -/
theorem SelfDelimiting.flatMap_inj (h : SelfDelimiting write) (hsome : ∀ a, write a ≠ [])
    {as bs : List α} (heq : as.flatMap write = bs.flatMap write) : as = bs := by
  induction as generalizing bs with
  | nil =>
    cases bs with
    | nil => rfl
    | cons b bs => simp [hsome] at heq
  | cons a as ih =>
    cases bs with
    | nil => simp [hsome] at heq
    | cons b bs =>
      rw [List.flatMap_cons, List.flatMap_cons] at heq
      obtain ⟨rfl, hrest⟩ := h heq
      rw [ih hrest]

theorem intercalate_map_cons (sep : List Char) (a : α) (as : List α) :
    sep.intercalate ((a :: as).map write) = write a ++ as.flatMap fun b => sep ++ write b := by
  induction as generalizing a with
  | nil => simp
  | cons b as ih =>
    rw [List.map_cons, List.map_cons, List.intercalate_cons_cons, ← List.map_cons, ih b]
    simp only [List.flatMap_cons, List.append_assoc]

/-- So can lists with a separator, even if the separator is found inside the writings. -/
theorem SelfDelimiting.intercalate_inj (h : SelfDelimiting write) (hsome : ∀ a, write a ≠ [])
    {sep : List Char} {as bs : List α}
    (heq : sep.intercalate (as.map write) = sep.intercalate (bs.map write)) : as = bs := by
  have hseparated : SelfDelimiting fun a => sep ++ write a := by
    intro a b r r' hboth
    simp only [List.append_assoc] at hboth
    exact h (List.append_cancel_left hboth)
  cases as with
  | nil =>
    cases bs with
    | nil => rfl
    | cons b bs =>
      rw [intercalate_map_cons] at heq
      simp [hsome] at heq
  | cons a as =>
    cases bs with
    | nil =>
      rw [intercalate_map_cons] at heq
      simp [hsome] at heq
    | cons b bs =>
      rw [intercalate_map_cons, intercalate_map_cons] at heq
      obtain ⟨rfl, hrest⟩ := h heq
      rw [hseparated.flatMap_inj (fun b => List.append_ne_nil_of_right_ne_nil sep (hsome b)) hrest]

end

/-- A text ends at the first of a character that it does not hold. -/
theorem append_stop_inj {stop : Char} {xs ys r r' : List Char} (hxs : stop ∉ xs) (hys : stop ∉ ys)
    (h : xs ++ stop :: r = ys ++ stop :: r') : xs = ys ∧ r = r' := by
  induction xs generalizing ys with
  | nil =>
    cases ys with
    | nil => exact ⟨rfl, (List.cons.inj h).2⟩
    | cons y ys => exact absurd (by simp [(List.cons.inj h).1]) hys
  | cons x xs ih =>
    cases ys with
    | nil => exact absurd (by simp [← (List.cons.inj h).1]) hxs
    | cons y ys =>
      obtain ⟨rfl, hrest⟩ := List.cons.inj h
      obtain ⟨rfl, hafter⟩ := ih (List.not_mem_of_not_mem_cons hxs)
        (List.not_mem_of_not_mem_cons hys) hrest
      exact ⟨rfl, hafter⟩

/-- What holds of every character of a fixed text is decided by looking at these characters alone,
not at all that there are. -/
theorem forall_mem_of_all {p : Char → Prop} [DecidablePred p] {cs : List Char}
    (h : cs.all (fun c => decide (p c)) = true) : ∀ c ∈ cs, p c := by
  simpa only [List.all_eq_true, decide_eq_true_eq] using h

/-! ## Hexadecimal digits -/

/-- What holds of the sixteen digits holds of every character of a numeral. -/
theorem forall_mem_hexDigits {p : Char → Prop} (h : ∀ d < 16, p (Nat.digitChar d)) (n : Nat) :
    ∀ c ∈ hexDigits n, p c := by
  induction n using Nat.strongRecOn with
  | ind n ih =>
    intro c hc
    rw [hexDigits, Nat.toDigits_eq_if (by decide)] at hc
    split at hc
    · rw [List.mem_singleton.mp hc]
      exact h n ‹_›
    · rcases List.mem_append.mp hc with hfront | hlast
      · exact ih (n / 16) (by omega) c hfront
      · rw [List.mem_singleton.mp hlast]
        exact h (n % 16) (by omega)

/-- The number that hexadecimal digits stand for. -/
def ofHexDigits (digits : List Char) : Nat :=
  ofDigits 16 (digits.filterMap hexValue?)

theorem ofHexDigits_hexDigits (n : Nat) : ofHexDigits (hexDigits n) = n := by
  have hvalue : ∀ d < 16, hexValue? (Nat.digitChar d) = some d := by decide
  induction n using Nat.strongRecOn with
  | ind n ih =>
    rw [hexDigits, Nat.toDigits_eq_if (by decide)]
    split
    · simp [ofHexDigits, ofDigits, hvalue n ‹_›]
    · have hfront : ofDigits 16 ((Nat.toDigits 16 (n / 16)).filterMap hexValue?) = n / 16 :=
        ih (n / 16) (by omega)
      rw [ofHexDigits, ofDigits, List.filterMap_append, List.foldl_append]
      rw [ofDigits] at hfront
      rw [hfront]
      simp only [List.filterMap_cons, hvalue (n % 16) (by omega), List.filterMap_nil,
        List.foldl_cons, List.foldl_nil]
      omega

/-! ## Escapes -/

/-- The character that is written at the front of a quoted text, and what stands behind it. -/
def readEscaped? : List Char → Option (Char × List Char)
  | '\\' :: '"' :: r => some ('"', r)
  | '\\' :: '\\' :: r => some ('\\', r)
  | '\\' :: 'n' :: r => some ('\n', r)
  | '\\' :: 'r' :: r => some ('\r', r)
  | '\\' :: 't' :: r => some ('\t', r)
  | '\\' :: '0' :: r => some ('\x00', r)
  | '\\' :: 'u' :: '\x7b' :: r =>
    some (Char.ofNat (ofHexDigits (r.takeWhile (· ≠ '\x7d'))), (r.dropWhile (· ≠ '\x7d')).tail)
  | c :: r => some (c, r)
  | [] => none

/-- The digits of an escape end at its brace. -/
theorem readEscaped?_digits {digits : List Char} (h : '\x7d' ∉ digits) (r : List Char) :
    readEscaped? (['\\', 'u', '\x7b'] ++ digits ++ ['\x7d'] ++ r) =
      some (Char.ofNat (ofHexDigits digits), r) := by
  have hkept : ∀ c ∈ digits, decide (c ≠ '\x7d') = true := by
    intro c hc
    exact decide_eq_true (ne_of_mem_of_not_mem hc h)
  have htake : (digits ++ '\x7d' :: r).takeWhile (· ≠ '\x7d') = digits := by
    rw [List.takeWhile_append_of_pos hkept, List.takeWhile_cons_of_neg (by decide), List.append_nil]
  have hdrop : (digits ++ '\x7d' :: r).dropWhile (· ≠ '\x7d') = '\x7d' :: r := by
    rw [List.dropWhile_append_of_pos hkept, List.dropWhile_cons_of_neg (by decide)]
  simp only [List.cons_append, List.nil_append, List.append_assoc, readEscaped?, htake, hdrop,
    List.tail_cons]

/-- A character stands for itself unless it is hidden, a quote or a backslash. -/
theorem readEscaped?_self {c : Char} (h : c ≠ '\\') (r : List Char) :
    readEscaped? (c :: r) = some (c, r) := by
  unfold readEscaped?
  split <;> simp_all

theorem readEscaped?_escapeChar (c : Char) (r : List Char) :
    readEscaped? (escapeChar c ++ r) = some (c, r) := by
  unfold escapeChar
  split_ifs with hquote hbackslash hnewline hreturn htab hnul hhidden
  · rw [hquote]; rfl
  · rw [hbackslash]; rfl
  · rw [hnewline]; rfl
  · rw [hreturn]; rfl
  · rw [htab]; rfl
  · rw [hnul]; rfl
  · have hdigits : ∀ d ∈ hexDigits c.toNat, d ≠ '\x7d' := forall_mem_hexDigits (by decide) _
    have hbrace : '\x7d' ∉ hexDigits c.toNat := fun hmem => hdigits _ hmem rfl
    rw [readEscaped?_digits hbrace r, ofHexDigits_hexDigits, Char.ofNat_toNat]
  · exact readEscaped?_self hbackslash r

theorem escapeChar_selfDelimiting : SelfDelimiting escapeChar :=
  .of_read readEscaped?_escapeChar

/-- No escape begins with a quote. -/
theorem escapeChar_ne_quote (c : Char) (r r' : List Char) : escapeChar c ++ r ≠ '"' :: r' := by
  unfold escapeChar
  split_ifs with hquote <;> simp [hquote]

/-- No escape holds a control character. -/
theorem escapeChar_plain (c : Char) : ∀ d ∈ escapeChar c, isAsciiControl d = false := by
  have hdigits : ∀ d ∈ hexDigits c.toNat, isAsciiControl d = false :=
    forall_mem_hexDigits (by decide) _
  unfold escapeChar
  split_ifs with hquote hbackslash hnewline hreturn htab hnul hhidden
  · exact forall_mem_of_all (by decide)
  · exact forall_mem_of_all (by decide)
  · exact forall_mem_of_all (by decide)
  · exact forall_mem_of_all (by decide)
  · exact forall_mem_of_all (by decide)
  · exact forall_mem_of_all (by decide)
  · exact List.forall_mem_append.mpr ⟨List.forall_mem_append.mpr
      ⟨forall_mem_of_all (by decide), hdigits⟩, forall_mem_of_all (by decide)⟩
  · intro d hd
    rw [List.mem_singleton.mp hd]
    have hshown : isHidden c = false := eq_false_of_ne_true hhidden
    exact (Bool.or_eq_false_iff.mp hshown).1

/-! ## Quotes -/

theorem escape_append_inj {s t r r' : List Char}
    (h : escape s ++ '"' :: r = escape t ++ '"' :: r') : s = t ∧ r = r' := by
  induction s generalizing t with
  | nil =>
    cases t with
    | nil => exact ⟨rfl, (List.cons.inj h).2⟩
    | cons d t =>
      have hquote : escapeChar d ++ (escape t ++ '"' :: r') = '"' :: r := by
        simpa [escape] using h.symm
      exact absurd hquote (escapeChar_ne_quote d _ _)
  | cons c s ih =>
    cases t with
    | nil =>
      have hquote : escapeChar c ++ (escape s ++ '"' :: r) = '"' :: r' := by
        simpa [escape] using h
      exact absurd hquote (escapeChar_ne_quote c _ _)
    | cons d t =>
      have hboth :
          escapeChar c ++ (escape s ++ '"' :: r) = escapeChar d ++ (escape t ++ '"' :: r') := by
        simpa [escape] using h
      obtain ⟨rfl, hrest⟩ := escapeChar_selfDelimiting hboth
      obtain ⟨rfl, hafter⟩ := ih hrest
      exact ⟨rfl, hafter⟩

/-- **Quoted texts are self-delimiting.** -/
theorem quoted_selfDelimiting : SelfDelimiting fun s : String => (quoted s).toList := by
  intro s t r r' h
  have hinside : escape s.toList ++ '"' :: r = escape t.toList ++ '"' :: r' := by
    simpa [quoted] using h
  obtain ⟨hsame, hrest⟩ := escape_append_inj hinside
  exact ⟨String.toList_inj.mp hsame, hrest⟩

/-- **A quoted text holds no control character**, whatever was quoted. -/
theorem quoted_plain (s : String) : ∀ c ∈ (quoted s).toList, isAsciiControl c = false := by
  intro c hc
  simp only [quoted, String.toList_ofList, List.mem_cons, List.mem_append, List.not_mem_nil,
    or_false, escape, List.mem_flatMap] at hc
  rcases hc with rfl | ⟨d, -, hd⟩ | rfl
  · decide
  · exact escapeChar_plain d c hd
  · decide

end BoundedTls.Text
