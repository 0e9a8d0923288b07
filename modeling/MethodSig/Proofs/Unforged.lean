import MethodSig.Json.Literal
import MethodSig.Proofs.AtEnd
import MethodSig.Proofs.LogLevel

/-!
# `Proofs.Unforged` — no text can forge a line of the log

A rejected text is shown in the log between quotes, whatever it is. Quoting can be read back: a character
is told from what is written for it, whatever follows (`unquoteChar?_quoteChar`), and nothing that is
written for a character begins with a quote. So two quoted texts are the same as soon as two texts that
begin with them are (`quoteChars_append_inj`), and a message of a rejection says which text was rejected,
although more text stands behind the closing quote (`Event.input_eq_of_message_eq`).

Since every event is logged as one line, a log cut at its line feeds has the lines of its events and no
others (`splitOn_unlines`).
-/

namespace MethodSig

namespace Text

variable {c d : Char} {s t u v : List Char}

/-! ## Numbers of characters -/

/-- The number that digits in base sixteen denote. -/
def hexNumber (digits : List Char) : Nat :=
  digits.foldl (fun n digit => 16 * n + (Json.hexValue? digit).getD 0) 0

theorem hexNumber_append_digit (digits : List Char) {n : Nat} (hn : n < 16) :
    hexNumber (digits ++ [Nat.digitChar n]) = 16 * hexNumber digits + n := by
  have hvalue : ∀ n < 16, Json.hexValue? (Nat.digitChar n) = some n := by decide
  rw [hexNumber, List.foldl_append, List.foldl_cons, hvalue n hn]
  rfl

/-- The digits of a number denote it. -/
theorem hexNumber_hexDigits (n : Nat) : hexNumber (hexDigits n) = n := by
  induction n using Nat.strong_induction_on with
  | _ n ih =>
      rw [hexDigits, Nat.toDigits_eq_if (by decide)]
      split
      · rename_i hn
        rw [← List.nil_append [Nat.digitChar n], hexNumber_append_digit [] hn]
        exact Nat.zero_add n
      · rename_i hn
        rw [hexNumber_append_digit _ (Nat.mod_lt n (by decide)), ← hexDigits,
          ih (n / 16) (Nat.div_lt_self (by omega) (by decide))]
        exact Nat.div_add_mod n 16

/-- No digit is a closing brace. -/
theorem ne_closing_of_mem_hexDigits {n : Nat} (h : c ∈ hexDigits n) : (c != '\x7d') = true := by
  obtain ⟨digit, hdigit, rfl⟩ := exists_digitChar_of_mem_toDigits (by decide) h
  have hnone : ∀ n < 16, (Nat.digitChar n != '\x7d') = true := by decide
  exact hnone digit hdigit

/-! ## Reading quoted text back -/

/-- The letters that stand for a character behind a backslash. -/
def escapes : List (Char × Char) :=
  [('0', '\x00'), ('t', '\t'), ('n', '\n'), ('r', '\r'), ('"', '"'), ('\\', '\\')]

/-- The character that is written by what stands behind a backslash, and what follows. -/
def unescape? : List Char → Option (Char × List Char)
  | [] => none
  | letter :: rest =>
    if letter = 'u' then
      let digits := (rest.drop 1).takeWhile (· != '\x7d')
      some (Char.ofNat (hexNumber digits), rest.drop (digits.length + 2))
    else (escapes.lookup letter).map fun c => (c, rest)

/-- The character that is written at the front of a text inside quotes, and what follows. There is none
    where the quotes end. -/
def unquoteChar? : List Char → Option (Char × List Char)
  | [] => none
  | c :: rest =>
    if c = '"' then none
    else if c = '\\' then unescape? rest
    else some (c, rest)

theorem unquoteChar?_quote (s : List Char) : unquoteChar? ('"' :: s) = none := rfl

theorem unquoteChar?_numbered (c : Char) (s : List Char) :
    unquoteChar? (numbered c ++ s) = some (c, s) := by
  have hdigits : (hexDigits c.toNat ++ '\x7d' :: s).takeWhile (· != '\x7d') = hexDigits c.toNat := by
    rw [List.takeWhile_append_of_pos fun _ => ne_closing_of_mem_hexDigits]
    simp
  have hbehind : (numbered c ++ s) = '\\' :: 'u' :: '\x7b' :: (hexDigits c.toNat ++ '\x7d' :: s) := by
    simp [numbered]
  rw [hbehind]
  show some (Char.ofNat (hexNumber ((hexDigits c.toNat ++ '\x7d' :: s).takeWhile (· != '\x7d'))),
    ('\x7b' :: (hexDigits c.toNat ++ '\x7d' :: s)).drop
      (((hexDigits c.toNat ++ '\x7d' :: s).takeWhile (· != '\x7d')).length + 2)) = some (c, s)
  rw [hdigits, hexNumber_hexDigits, Char.ofNat_toNat]
  simp

/-- **A character is read back** from what is written for it, whatever follows. -/
theorem unquoteChar?_quoteChar (c : Char) (s : List Char) :
    unquoteChar? (quoteChar c ++ s) = some (c, s) := by
  unfold quoteChar
  split_ifs with hnul htab hfeed hreturn hquote hslash hglyph
  · rw [hnul]
    rfl
  · rw [htab]
    rfl
  · rw [hfeed]
    rfl
  · rw [hreturn]
    rfl
  · rw [hquote]
    rfl
  · rw [hslash]
    rfl
  · rw [List.singleton_append, unquoteChar?, if_neg hquote, if_neg hslash]
  · exact unquoteChar?_numbered c s

/-- **Quoted text ends where its quotes do**: two texts that begin with the same quoted text hold the same
    between the quotes and go on alike. -/
theorem quoteChars_append_inj (h : quoteChars s ++ '"' :: u = quoteChars t ++ '"' :: v) :
    s = t ∧ u = v := by
  -- both sides are read from the front: at a quote there is no character, else the first of the text
  have hread := congrArg unquoteChar? h
  induction s generalizing t with
  | nil =>
      cases t with
      | nil => exact ⟨rfl, List.tail_eq_of_cons_eq h⟩
      | cons d t =>
          rw [quoteChars, quoteChars, List.flatMap_cons, List.append_assoc, unquoteChar?_quoteChar] at hread
          exact absurd hread (by simp [unquoteChar?_quote])
  | cons c s ih =>
      rw [quoteChars, List.flatMap_cons, List.append_assoc, unquoteChar?_quoteChar] at hread
      cases t with
      | nil => exact absurd hread (by simp [quoteChars, unquoteChar?_quote])
      | cons d t =>
          rw [quoteChars, List.flatMap_cons, List.append_assoc, unquoteChar?_quoteChar] at hread
          obtain ⟨rfl, hrest⟩ := Prod.mk.inj (Option.some.inj hread)
          obtain ⟨rfl, hbehind⟩ := ih hrest (congrArg unquoteChar? hrest)
          exact ⟨rfl, hbehind⟩

end Text

/-! ## Messages -/

/-- Quoted texts are the same if more of the text around them is. -/
theorem eq_of_append_quoted_eq {front middle behind behind' a b : String}
    (h : front ++ Text.quoted a ++ middle ++ behind = front ++ Text.quoted b ++ middle ++ behind') :
    a = b := by
  have hchars := congrArg String.toList h
  simp only [Text.quoted, String.toList_append, String.toList_ofList, List.append_assoc,
    List.cons_append, List.nil_append] at hchars
  have hquoted := List.tail_eq_of_cons_eq (List.append_cancel_left hchars)
  exact String.toList_inj.mp (Text.quoteChars_append_inj hquoted).1

/-- **The message of a rejection says which text was rejected.** -/
theorem Event.input_eq_of_message_eq {why why' : Rejection}
    (h : (Event.rejected why).message = (Event.rejected why').message) : why.input = why'.input :=
  eq_of_append_quoted_eq h

/-! ## Events -/

theorem trace_parseLogged_of_ok {input : String} {d : Signature} (h : Signature.parse input = .ok d) :
    (Signature.parseLogged input).trace = [.parsed d] := by
  unfold Signature.parseLogged
  rw [h]
  rfl

theorem trace_parseLogged_of_error {input : String} {why : Rejection}
    (h : Signature.parse input = .error why) :
    (Signature.parseLogged input).trace = [.rejected why] := by
  unfold Signature.parseLogged
  rw [h]
  rfl

/-- Parsing logs one event, whether the text is accepted or not. -/
theorem exists_trace_parseLogged (input : String) :
    ∃ e : Event, (Signature.parseLogged input).trace = [e] ∧ e.Occurs := by
  cases h : Signature.parse input with
  | ok d => exact ⟨.parsed d, trace_parseLogged_of_ok h, input, h⟩
  | error why => exact ⟨.rejected why, trace_parseLogged_of_error h, trivial⟩

/-- So does splitting. -/
theorem exists_trace_splitLogged (s : Splitter) (source : String) :
    ∃ e : Event, (s.splitLogged source).trace = [e] ∧ e.Occurs :=
  ⟨.split source.length (s.split source).length s.separators.size, rfl, trivial⟩

/-- Rejections of two texts are logged with two messages. -/
theorem map_message_trace_parseLogged_ne {a b : String} {why why' : Rejection}
    (ha : Signature.parse a = .error why) (hb : Signature.parse b = .error why') (hne : a ≠ b) :
    (Signature.parseLogged a).trace.map Event.message ≠
      (Signature.parseLogged b).trace.map Event.message := by
  rw [trace_parseLogged_of_error ha, trace_parseLogged_of_error hb]
  obtain ⟨-, rfl⟩ := parse_eq_error_iff.mp ha
  obtain ⟨-, rfl⟩ := parse_eq_error_iff.mp hb
  intro hsame
  exact hne (Event.input_eq_of_message_eq (List.head_eq_of_cons_eq hsame))

/-! ## Logs -/

/-- **A log cut at its line feeds** has the lines that were logged, and nothing behind the last one. -/
theorem splitOn_unlines {lines : List String} (h : ∀ line ∈ lines, OneLine line) :
    (CommandLine.unlines lines).toList.splitOn '\n' = lines.map String.toList ++ [[]] := by
  induction lines with
  | nil => rfl
  | cons line lines ih =>
      have hline : '\n' ∉ line.toList :=
        fun hmem => absurd (h line List.mem_cons_self '\n' hmem) (by decide)
      have hlog : (CommandLine.unlines (line :: lines)).toList =
          line.toList ++ '\n' :: (CommandLine.unlines lines).toList := by
        simp [CommandLine.unlines]
      rw [hlog, List.splitOn_append_cons_self_of_not_mem hline,
        ih fun other hother => h other (List.mem_cons_of_mem line hother)]
      rfl

namespace CommandLine

variable {arguments : List String} {env : Environment} {file : Option String}

/-- The log of a run, cut at its line feeds, has a line for each event. -/
theorem splitOn_log_run : (run arguments env file).log.toList.splitOn '\n' =
    (run arguments env file).events.map
      (fun e => (e.line (isColored (run arguments env file).outside)).toList) ++ [[]] := by
  rw [Outcome.log, splitOn_unlines oneLine_of_mem_lines, Outcome.lines, List.map_map]
  rfl

/-- What a run prints begins with its log. -/
theorem exists_stdout_eq_log_append :
    ∃ printed, (run arguments env file).stdout = (run arguments env file).log ++ printed := by
  unfold Outcome.stdout
  cases (run arguments env file).result with
  | ok text => exact ⟨text, rfl⟩
  | error failure => exact ⟨"", String.append_empty.symm⟩

/-- **No line of the log can be forged.** Parsing logs one event and so does splitting, whatever the text,
    and the message of the event is one line. In the log of a run there is a line for each event, and
    there are no others. The messages of two rejected texts are different, if the texts are. -/
theorem log_unforged :
    (∀ input, ∃ e : Event, (Signature.parseLogged input).trace = [e] ∧ OneLine e.message) ∧
      (∀ (s : Splitter) source, ∃ e : Event, (s.splitLogged source).trace = [e] ∧ OneLine e.message) ∧
      (∀ arguments env file,
        (∀ e ∈ (run arguments env file).events, OneLine e.message) ∧
          (run arguments env file).log.toList.splitOn '\n' =
            (run arguments env file).events.map
              (fun e => (e.line (isColored (run arguments env file).outside)).toList) ++ [[]] ∧
          ∃ printed, (run arguments env file).stdout = (run arguments env file).log ++ printed) ∧
      ∀ a b why why', Signature.parse a = .error why → Signature.parse b = .error why' → a ≠ b →
        (Signature.parseLogged a).trace.map Event.message ≠
          (Signature.parseLogged b).trace.map Event.message := by
  refine ⟨?_, ?_, ?_, ?_⟩
  · intro input
    obtain ⟨e, htrace, he⟩ := exists_trace_parseLogged input
    exact ⟨e, htrace, he.oneLine_message⟩
  · intro s source
    obtain ⟨e, htrace, he⟩ := exists_trace_splitLogged s source
    exact ⟨e, htrace, he.oneLine_message⟩
  · intro arguments env file
    refine ⟨?_, splitOn_log_run, exists_stdout_eq_log_append⟩
    intro e he
    exact (occurs_of_mem_events_run e he).oneLine_message
  · intro a b why why' ha hb hne
    exact map_message_trace_parseLogged_ne ha hb hne

/-- A line feed, and a backslash with an `n` behind it. -/
theorem log_unforged_escaped :
    Signature.parse "a\nb" = .error ⟨"a\nb", ⟨3, 2, 2⟩, endTerminals⟩ ∧
      Signature.parse "a\\nb" = .error ⟨"a\\nb", ⟨4, 1, 5⟩, endTerminals⟩ ∧
      (Signature.parseLogged "a\nb").trace.map Event.message ≠
        (Signature.parseLogged "a\\nb").trace.map Event.message := by
  have hfeed : Signature.parse "a\nb" = .error ⟨"a\nb", ⟨3, 2, 2⟩, endTerminals⟩ := by
    decide +kernel
  have hslash : Signature.parse "a\\nb" = .error ⟨"a\\nb", ⟨4, 1, 5⟩, endTerminals⟩ := by
    decide +kernel
  exact ⟨hfeed, hslash, log_unforged.2.2.2 _ _ _ _ hfeed hslash (by decide)⟩

end CommandLine

end MethodSig
