import MethodSig.Log
import MethodSig.Proofs.Canonical

/-!
# `Proofs.LogLines` — every event is one line of the log

A line of the log may show a text that came from outside: the name in a signature that was read, or a
text that was rejected. Neither can break the line. A name that was read is a word, and a rejected text
is shown in quotes, where line feeds and carriage returns are escaped (`oneLine_quoted`). So every event
that an operation records is logged as one line (`Event.Occurs.oneLine_line`).
-/

namespace MethodSig

variable {c : Char} {s t : String}

/-! ## Texts of one line -/

/-- Whether a line is broken at `c`. -/
def isBreak (c : Char) : Bool := c == '\n' || c == '\r'

/-- The text does not go beyond its line. -/
def OneLine (s : String) : Prop := ∀ c ∈ s.toList, isBreak c = false

/-- A class of characters without the breaks. -/
theorem isBreak_of_class {p : Char → Bool} (hfeed : p '\n' = false) (hreturn : p '\r' = false)
    (hc : p c = true) : isBreak c = false := by
  refine Bool.eq_false_iff.mpr fun hbreak => ?_
  rw [isBreak, Bool.or_eq_true, beq_iff_eq, beq_iff_eq] at hbreak
  rcases hbreak with rfl | rfl
  · rw [hfeed] at hc
    exact absurd hc (by simp)
  · rw [hreturn] at hc
    exact absurd hc (by simp)

theorem isBreak_of_all {l : List Char} (h : l.all (fun c => !isBreak c) = true) :
    ∀ c ∈ l, isBreak c = false := by
  intro c hc
  simpa using List.all_eq_true.mp h c hc

instance (s : String) : Decidable (OneLine s) :=
  decidable_of_iff (s.toList.all (fun c => !isBreak c) = true)
    ⟨isBreak_of_all, fun h => List.all_eq_true.mpr fun c hc => by rw [h c hc]; rfl⟩

theorem OneLine.append (hs : OneLine s) (ht : OneLine t) : OneLine (s ++ t) := by
  intro c hc
  rw [String.toList_append, List.mem_append] at hc
  exact hc.elim (hs c) (ht c)

/-- Texts of one line with such a text between them. -/
theorem oneLine_intercalate {texts : List String} (hs : OneLine s) (h : ∀ t ∈ texts, OneLine t) :
    OneLine (s.intercalate texts) := by
  induction texts with
  | nil => exact (by decide : OneLine "")
  | cons t texts ih =>
      have ht : OneLine t := h t List.mem_cons_self
      cases texts with
      | nil => rwa [String.intercalate_singleton]
      | cons u texts =>
          rw [String.intercalate_cons_cons]
          exact (ht.append hs).append (ih fun v hv => h v (List.mem_cons_of_mem t hv))

theorem oneLine_toString_nat (n : Nat) : OneLine (toString n) := by
  intro c hc
  have hdigit : c ∈ Nat.toDigits 10 n := by rwa [← Nat.toList_repr]
  exact isBreak_of_class (p := Char.isDigit) (by decide) (by decide)
    (Nat.isDigit_of_mem_toDigits (by decide) (by decide) hdigit)

theorem IsRun.oneLine_of_word (h : IsWord s.toList) : OneLine s :=
  fun c hc => isBreak_of_class (by decide) (by decide) (h.all c hc)

/-! ## Quoting -/

theorem exists_digitChar_of_mem_toDigits {b n : Nat} (hb : 1 < b) (h : c ∈ Nat.toDigits b n) :
    ∃ d < b, c = Nat.digitChar d := by
  induction n using Nat.strong_induction_on with
  | _ n ih =>
      rw [Nat.toDigits_eq_if hb] at h
      split at h
      · rename_i hn
        exact ⟨n, hn, List.mem_singleton.mp h⟩
      · rename_i hn
        rcases List.mem_append.mp h with h | h
        · exact ih (n / b) (Nat.div_lt_self (by omega) hb) h
        · exact ⟨n % b, Nat.mod_lt n (by omega), List.mem_singleton.mp h⟩

theorem isBreak_of_mem_numbered {d : Char} (h : d ∈ Text.numbered c) : isBreak d = false := by
  have hfront : ∀ e ∈ ['\\', 'u', '\x7b', '\x7d'], isBreak e = false := isBreak_of_all (by decide)
  have hdigits : ∀ n < 16, isBreak (Nat.digitChar n) = false := by decide
  simp only [Text.numbered, List.mem_cons, List.mem_append, List.not_mem_nil, or_false] at h
  rcases h with rfl | rfl | rfl | h | rfl
  · exact hfront _ (by simp)
  · exact hfront _ (by simp)
  · exact hfront _ (by simp)
  · obtain ⟨n, hn, rfl⟩ := exists_digitChar_of_mem_toDigits (by decide) h
    exact hdigits n hn
  · exact hfront _ (by simp)

/-- A character is written by a backslash and one character, by its number, or as it is; as it is only
    if it does not break the line. -/
theorem quoteChar_cases (c : Char) :
    (∃ e ∈ ['0', 't', 'n', 'r', '"', '\\'], Text.quoteChar c = ['\\', e]) ∨
      Text.quoteChar c = Text.numbered c ∨ Text.quoteChar c = [c] ∧ isBreak c = false := by
  unfold Text.quoteChar
  split_ifs with hnul htab hfeed hreturn hquote hslash hglyph
  · exact Or.inl ⟨'0', by simp, rfl⟩
  · exact Or.inl ⟨'t', by simp, rfl⟩
  · exact Or.inl ⟨'n', by simp, rfl⟩
  · exact Or.inl ⟨'r', by simp, rfl⟩
  · exact Or.inl ⟨'"', by simp, rfl⟩
  · exact Or.inl ⟨'\\', by simp, rfl⟩
  · exact Or.inr (Or.inr ⟨rfl, by simp [isBreak, hfeed, hreturn]⟩)
  · exact Or.inr (Or.inl rfl)

/-- No character is written with a break. -/
theorem isBreak_of_mem_quoteChar {d : Char} (h : d ∈ Text.quoteChar c) : isBreak d = false := by
  rcases quoteChar_cases c with ⟨e, he, hc⟩ | hc | ⟨hc, hbreak⟩
  · rw [hc] at h
    have hletters : ∀ e ∈ ['0', 't', 'n', 'r', '"', '\\'], isBreak e = false :=
      isBreak_of_all (by decide)
    rcases List.mem_cons.mp h with rfl | h
    · decide
    · rw [List.mem_singleton.mp h]
      exact hletters e he
  · rw [hc] at h
    exact isBreak_of_mem_numbered h
  · rw [hc, List.mem_singleton] at h
    rwa [h]

/-- **Quotes keep a text on one line.** -/
theorem oneLine_quoted (s : String) : OneLine (Text.quoted s) := by
  intro d hd
  simp only [Text.quoted, Text.quoteChars, String.toList_ofList, List.mem_cons, List.mem_append,
    List.mem_flatMap, List.not_mem_nil, or_false] at hd
  rcases hd with rfl | ⟨c, -, hd⟩ | rfl
  · decide
  · exact isBreak_of_mem_quoteChar hd
  · decide

/-! ## Events -/

theorem oneLine_terminal (t : Terminal) : OneLine t.text := by
  cases t with
  | keyword v => cases v <;> decide
  | _ => decide

theorem oneLine_expectedText (expected : List Terminal) :
    OneLine (Rejection.expectedText expected) := by
  have hall : ∀ text ∈ expected.map Terminal.text, OneLine text := by
    intro text htext
    obtain ⟨t, -, rfl⟩ := List.mem_map.mp htext
    exact oneLine_terminal t
  match expected with
  | [] => decide
  | [t] => exact oneLine_terminal t
  | t :: u :: rest =>
      have hcomma : OneLine ", " := by decide
      have hfront : OneLine "one of " := by decide
      exact hfront.append (oneLine_intercalate hcomma hall)

/-- What is said about a place and what was expected there. -/
theorem oneLine_detail (why : Rejection) : OneLine why.detail := by
  have herror : OneLine "error at " := by decide
  have hcolon : OneLine ":" := by decide
  have hexpected : OneLine ": expected " := by decide
  exact ((((herror.append (oneLine_toString_nat _)).append hcolon).append
    (oneLine_toString_nat _)).append hexpected).append (oneLine_expectedText _)

namespace Event

/-- Events as operations record them: what is said to have been read was read, from some text. -/
def Occurs : Event → Prop
  | parsed found => ∃ input, Signature.parse input = .ok found
  | rejected _ | split .. | defaultDelimiters => True

/-- **What happened is said on one line.** -/
theorem Occurs.oneLine_message {e : Event} (h : e.Occurs) : OneLine e.message := by
  cases e with
  | parsed found =>
      obtain ⟨input, hparse⟩ := h
      have hname : OneLine found.name :=
        (findSignature?_wellFormed (parse_eq_ok_iff.mp hparse)).name.oneLine_of_word
      have hparsed : OneLine "Parsed `" := by decide
      have hwith : OneLine "` with " := by decide
      have harguments : OneLine " argument(s)" := by decide
      exact (((hparsed.append hname).append hwith).append (oneLine_toString_nat _)).append harguments
  | rejected why =>
      have hrejected : OneLine "Rejected malformed signature " := by decide
      have hcolon : OneLine ": " := by decide
      exact ((hrejected.append (oneLine_quoted _)).append hcolon).append (oneLine_detail why)
  | split chars tokens separators =>
      have hsplit : OneLine "Split " := by decide
      have hchars : OneLine " char(s) into " := by decide
      have htokens : OneLine " token(s) using " := by decide
      have hseparators : OneLine " separator(s)" := by decide
      exact (((((hsplit.append (oneLine_toString_nat _)).append hchars).append
        (oneLine_toString_nat _)).append htokens).append (oneLine_toString_nat _)).append hseparators
  | defaultDelimiters => decide

/-- Colours do not break a line. -/
theorem oneLine_painted (hs : OneLine s) (colored : Bool) (rendition : Nat) :
    OneLine (painted colored rendition s) := by
  cases colored with
  | false => exact hs
  | true =>
      have hopen : OneLine "\x1b[" := by decide
      have hmode : OneLine "m" := by decide
      have hclose : OneLine "\x1b[0m" := by decide
      exact (((hopen.append (oneLine_toString_nat rendition)).append hmode).append hs).append hclose

/-- **An event is logged as one line**, in colours or without. -/
theorem Occurs.oneLine_line {e : Event} (h : e.Occurs) (colored : Bool) : OneLine (e.line colored) := by
  have hlevel : OneLine e.level.padded := by
    cases e.level <;> decide
  have htarget : OneLine e.target := by
    cases e with
    | parsed _ | rejected _ => exact (by decide : OneLine "sigsplit::signature")
    | split _ _ _ => exact (by decide : OneLine "sigsplit::splitter")
    | defaultDelimiters => exact (by decide : OneLine "sigsplit")
  have hspace : OneLine " " := by decide
  have hcolon : OneLine ":" := by decide
  exact (((((oneLine_painted hlevel colored _).append hspace).append
    (oneLine_painted htarget colored 2)).append (oneLine_painted hcolon colored 2)).append
    hspace).append h.oneLine_message

end Event

end MethodSig
