import MethodSig.Proofs.Separators

/-!
# `Proofs.Arrangement` — options in any order and in any form

Behind the name of a command stand *parts*: texts, and options with their values. An option with its value
is written in one of several forms (`Form`), in one argument or in two. Every part is understood on its
own, so what the parts amount to can be read off them one by one (`Request.ofArguments_argumentsOf`), and
the order of parts of different kinds is lost.

Two collections of parts *arrange* the same when they give the same text, the same output format and the
same delimiters, these in any order. Runs that arrange the same end the same and print the same
(`run_rearranged`): the forms are not looked at when a value is read, and the delimiters only count as a
set of characters. One thing does show the form of an option, the complaint about an output format that
is empty: there is no value to show, so it shows the option as it is written.
-/

namespace MethodSig.CommandLine

/-! ## Forms of an option -/

/-- How an option is written with its value. -/
inductive Form where
  /-- The value is the next argument: `-o F`, `--output F`. -/
  | apart (spelling : Spelling)
  /-- The value follows the letter: `-oF`. -/
  | joined
  /-- The value stands behind an equals sign: `-o=F`, `--output=F`. -/
  | equated (spelling : Spelling)
deriving DecidableEq

namespace Form

/-- The arguments in which an option is given a value. -/
def arguments (name : OptionName) (value : String) : Form → List String
  | apart spelling => [name.text spelling, value]
  | joined => [name.text .letter ++ value]
  | equated spelling => [name.text spelling ++ "=" ++ value]

/-- The value can be given in this form: an argument of its own may not begin with a dash, and what follows
    a letter may not be empty or have an equals sign in it. -/
def Takes (value : String) : Form → Prop
  | apart _ => value.toList.head? ≠ some '-'
  | joined => value ≠ "" ∧ '=' ∉ value.toList
  | equated _ => True

instance (value : String) : (form : Form) → Decidable (form.Takes value)
  | apart _ => inferInstanceAs (Decidable (_ ≠ _))
  | joined => inferInstanceAs (Decidable (_ ∧ _))
  | equated _ => inferInstanceAs (Decidable True)

/-- The value as it is given. -/
def given (value : String) : Form → Given
  | apart spelling => ⟨spelling, false, value⟩
  | joined => ⟨.letter, true, value⟩
  | equated spelling => ⟨spelling, true, value⟩

/-- The items of the arguments. -/
def items (name : OptionName) (value : String) : Form → List Item
  | apart spelling => [.option name spelling none, .word value]
  | joined => [.option name .letter (some value)]
  | equated spelling => [.option name spelling (some value)]

@[simp] theorem value_given (form : Form) (value : String) : (form.given value).value = value := by
  cases form <;> rfl

end Form

/-- The letter of an option. -/
def OptionName.letter : OptionName → Char
  | output => 'o'
  | delimiter => 'd'

theorem OptionName.toList_text_letter (name : OptionName) :
    (name.text .letter).toList = ['-', name.letter] := by
  cases name <;> rfl

theorem Item.ofLetter_letter (name : OptionName) (attached : Option String) :
    Item.ofLetter name.letter attached = .option name .letter attached := by
  cases name <;> rfl

/-- An argument of one dash. -/
theorem itemsOfArgument_letter {argument : String} {name : OptionName} {rest : List Char}
    (h : argument.toList = '-' :: name.letter :: rest) :
    itemsOfArgument argument = (shortItems? name.letter rest).getD [.word argument] := by
  unfold itemsOfArgument
  rw [h]
  cases name <;> rfl

/-- An option that stands apart from its value. -/
theorem itemsOfArgument_text (name : OptionName) (spelling : Spelling) :
    itemsOfArgument (name.text spelling) = [.option name spelling none] := by
  cases name <;> cases spelling <;> decide

/-- A letter with its value. -/
theorem itemsOfArgument_joined {name : OptionName} {value : String}
    (h : Form.joined.Takes value) :
    itemsOfArgument (name.text .letter ++ value) = [.option name .letter (some value)] := by
  obtain ⟨hne, hequals⟩ := h
  have htoList : (name.text .letter ++ value).toList = '-' :: name.letter :: value.toList := by
    rw [String.toList_append, OptionName.toList_text_letter]
    rfl
  have hempty : value.toList.isEmpty = false := by
    rw [List.isEmpty_eq_false_iff]
    intro h
    exact hne (String.toList_eq_nil_iff.mp h)
  have hcontains : value.toList.contains '=' = false := by
    simpa using hequals
  have hletters : letterItems? (name.letter :: value.toList) =
      some [.ofLetter name.letter (some value)] := by
    cases name <;> simp [letterItems?, OptionName.letter, hempty]
  rw [itemsOfArgument_letter htoList, shortItems?, hempty, hcontains]
  simp [hletters, Item.ofLetter_letter]

/-- A letter, an equals sign and the value. -/
theorem itemsOfArgument_letter_equated (name : OptionName) (value : String) :
    itemsOfArgument (name.text .letter ++ "=" ++ value) = [.option name .letter (some value)] := by
  have htoList : (name.text .letter ++ "=" ++ value).toList =
      '-' :: name.letter :: '=' :: value.toList := by
    rw [String.toList_append, String.toList_append, OptionName.toList_text_letter]
    rfl
  have hascii : name.letter.toNat < 0x80 := by cases name <;> decide
  rw [itemsOfArgument_letter htoList, shortItems?]
  simp [hascii, Item.ofLetter_letter]

/-- An option and its value behind an equals sign. -/
theorem itemsOfArgument_equated (name : OptionName) (spelling : Spelling) (value : String) :
    itemsOfArgument (name.text spelling ++ "=" ++ value) = [.option name spelling (some value)] := by
  cases spelling with
  | letter => exact itemsOfArgument_letter_equated name value
  | name => exact itemsOfArgument_name_equated name value

/-! ## Parts -/

/-- What stands behind the name of a command. -/
inductive Part where
  /-- A text. -/
  | text (text : String)
  /-- An option with its value. -/
  | option (name : OptionName) (form : Form) (value : String)
deriving DecidableEq

namespace Part

/-- The arguments of a part. -/
def arguments : Part → List String
  | text t => [t]
  | option name form value => form.arguments name value

/-- The items of a part. -/
def items : Part → List Item
  | text t => [.word t]
  | option name form value => form.items name value

/-- A text does not begin with a dash, and a value can be given in its form. -/
def WellFormed : Part → Prop
  | text t => t.toList.head? ≠ some '-'
  | option _ form value => form.Takes value

instance : (part : Part) → Decidable part.WellFormed
  | text _ => inferInstanceAs (Decidable (_ ≠ _))
  | option _ form value => inferInstanceAs (Decidable (form.Takes value))

/-- The text, if the part is one. -/
def text? : Part → Option String
  | text t => some t
  | option .. => none

/-- The option with its value as it is given, if the part is one. -/
def option? : Part → Option (OptionName × Given)
  | text _ => none
  | option name form value => some (name, form.given value)

end Part

/-- What is given for an option, in order. -/
def givenOf (name : OptionName) (parts : List Part) : List Given :=
  ((parts.filterMap Part.option?).filter (·.1 = name)).map (·.2)

/-- The name of a command. -/
def CommandName.text : CommandName → String
  | signature => "signature"
  | split => "split"

/-- The arguments of a command with its parts. -/
def argumentsOf (command : CommandName) (parts : List Part) : List String :=
  command.text :: parts.flatMap Part.arguments

variable {parts parts₁ parts₂ : List Part} {part : Part} {command : CommandName} {rest : List String}

/-- **A part is understood on its own**, whatever follows. -/
theorem itemsOfArguments_part (h : part.WellFormed) (rest : List String) :
    itemsOfArguments (part.arguments ++ rest) =
      (part.items ++ (itemsOfArguments rest).1, (itemsOfArguments rest).2) := by
  -- an argument with items that `--` does not have
  have alone : ∀ {argument : String} {items : List Item}, itemsOfArgument argument = items →
      items ≠ [.unknown] → ∀ rest, itemsOfArguments (argument :: rest) =
        (items ++ (itemsOfArguments rest).1, (itemsOfArguments rest).2) := by
    intro argument items hitems hknown rest
    have hne : argument ≠ "--" := by
      rintro rfl
      exact hknown (hitems.symm.trans (by decide))
    rw [itemsOfArguments_cons hne, hitems]
  cases part with
  | text t =>
      have htext := isText_of_head? h
      exact alone htext.2 (by simp) rest
  | option name form value =>
      cases form with
      | apart spelling =>
          have hvalue := isText_of_head? h
          show itemsOfArguments (name.text spelling :: value :: rest) = _
          rw [alone (itemsOfArgument_text name spelling) (by simp), alone hvalue.2 (by simp)]
          rfl
      | joined => exact alone (itemsOfArgument_joined h) (by simp) rest
      | equated spelling => exact alone (itemsOfArgument_equated name spelling value) (by simp) rest

theorem itemsOfArguments_parts (h : ∀ part ∈ parts, part.WellFormed) :
    itemsOfArguments (parts.flatMap Part.arguments) = (parts.flatMap Part.items, []) := by
  induction parts with
  | nil => rfl
  | cons part parts ih =>
      obtain ⟨hpart, hparts⟩ := List.forall_mem_cons.mp h
      rw [List.flatMap_cons, itemsOfArguments_part hpart, ih hparts]
      rfl

/-- A part adds its option or its text. -/
theorem gather_part (part : Part) (items : List Item) :
    gather [] (part.items ++ items) =
      { options := (part.option?.map fun o => (o.1, some o.2)).toList ++ (gather [] items).options
        texts := part.text?.toList ++ (gather [] items).texts
        strange := (gather [] items).strange } := by
  cases part with
  | text t => rfl
  | option name form value =>
      cases form with
      | apart spelling => rfl
      | joined => simp [Part.items, Form.items, Part.option?, Form.given, Part.text?, gather]
      | equated spelling => simp [Part.items, Form.items, Part.option?, Form.given, Part.text?, gather]

/-- **What parts amount to**: their options and their texts, each in order. -/
theorem gather_parts (parts : List Part) :
    gather [] (parts.flatMap Part.items) =
      { options := (parts.filterMap Part.option?).map fun o => (o.1, some o.2)
        texts := parts.filterMap Part.text? } := by
  induction parts with
  | nil => rfl
  | cons part parts ih =>
      rw [List.flatMap_cons, gather_part, ih]
      cases part <;> rfl

/-- What parts amount to. -/
def collected (parts : List Part) : Gathered where
  options := (parts.filterMap Part.option?).map fun o => (o.1, some o.2)
  texts := parts.filterMap Part.text?

theorem values_collected (name : OptionName) (parts : List Part) :
    (collected parts).values name = (givenOf name parts).map some := by
  simp only [Gathered.values, collected, givenOf, List.filter_map, List.map_map]
  rfl

theorem delimiters_collected (parts : List Part) :
    (collected parts).delimiters = .ok ((givenOf .delimiter parts).map Given.value) := by
  apply Gathered.delimiters_eq_ok_iff.mpr
  rw [values_collected]
  simp [List.filterMap_map, Function.comp_def]

/-- No part asks for help. -/
theorem help_notMem_items (parts : List Part) : Item.help ∉ parts.flatMap Part.items := by
  intro h
  obtain ⟨part, -, hpart⟩ := List.mem_flatMap.mp h
  cases part with
  | text t => simp [Part.items] at hpart
  | option name form value => cases form <;> simp [Part.items, Form.items] at hpart

/-- **What is asked for** with a command and its parts. -/
theorem Request.ofArguments_argumentsOf (h : ∀ part ∈ parts, part.WellFormed) (command : CommandName) :
    Request.ofArguments (argumentsOf command parts) =
      (Command.ofGathered command (collected parts)).map .command := by
  have hcommand : command.text ≠ "--" ∧ itemsOfArgument command.text = [.word command.text] ∧
      CommandName.ofItem? (.word command.text) = some command := by
    cases command <;> decide
  have hitems : itemsOfArguments (argumentsOf command parts) =
      (.word command.text :: parts.flatMap Part.items, []) := by
    rw [argumentsOf, itemsOfArguments_cons hcommand.1, itemsOfArguments_parts h, hcommand.2.1]
    rfl
  have hgathered : gathered (argumentsOf command parts) = collected parts := by
    rw [gathered, hitems]
    exact gather_parts parts
  have hname : commandName? (argumentsOf command parts) = some command := by
    rw [commandName?, hitems]
    exact hcommand.2.2
  have hhelp : (itemsOfArguments (argumentsOf command parts)).1.contains .help = false := by
    rw [hitems]
    simpa using help_notMem_items parts
  rw [Request.ofArguments_eq, hhelp, hname, hgathered]
  rfl

/-! ## Arrangements -/

/-- **The parts arrange** a text, at most one output format, and delimiters: these are what they give, in
    any order and any form. -/
structure Arranges (parts : List Part) (source : String) (format : Option String)
    (delimiters : List String) : Prop where
  wellFormed : ∀ part ∈ parts, part.WellFormed
  texts : parts.filterMap Part.text? = [source]
  formats : (givenOf .output parts).map Given.value = format.toList
  delimiters : ((givenOf .delimiter parts).map Given.value).Perm delimiters

variable {source : String} {format : Option String} {delimiters : List String} {env outside : Environment}
  {file : Option String} {settings : Settings} {output : Option OutputFormat} {e : UnknownFormat}

/-- The output format that is asked for, if one is. -/
def formatOf : Option String → Except UnknownFormat (Option OutputFormat)
  | none => .ok none
  | some value => (OutputFormat.ofName value).map some

/-- What a command comes to when its parts are accepted one by one. Only `split` takes delimiters. -/
def acceptedRun (settings : Settings) (outside : Environment) (command : CommandName)
    (output : Option OutputFormat) (delimiters : List String) (source : String) : Outcome :=
  if command = .signature ∧ delimiters ≠ [] then ⟨outside, [], .error (.arguments .usage)⟩
  else (Request.command (Command.ofParts command output delimiters source)).run settings outside

/-- The order of delimiters is of no account. -/
theorem acceptedRun_perm {d : List String} (h : d.Perm delimiters) (command : CommandName) :
    acceptedRun settings outside command output d source =
      acceptedRun settings outside command output delimiters source := by
  by_cases hnil : delimiters = []
  · subst hnil
    rw [h.eq_nil]
  · have hd : d ≠ [] := by
      rintro rfl
      exact hnil h.symm.eq_nil
    cases command with
    | signature => simp [acceptedRun, hnil, hd]
    | split =>
        have hsame : Splitter.ofDelimiters d = Splitter.ofDelimiters delimiters := by
          apply Splitter.ofDelimiters_eq_iff.mpr
          intro c
          constructor
          · rintro ⟨v, hv, hc⟩
            exact ⟨v, h.mem_iff.mp hv, hc⟩
          · rintro ⟨v, hv, hc⟩
            exact ⟨v, h.mem_iff.mpr hv, hc⟩
        exact run_split_congr hd hnil hsame

namespace Arranges

theorem text_eq (h : Arranges parts source format delimiters) :
    (collected parts).text = .ok source :=
  Gathered.text_eq_ok_iff.mpr ⟨rfl, h.texts⟩

/-- A format that exists is accepted in every form. -/
theorem output_of_ok (h : Arranges parts source format delimiters) (hformat : formatOf format = .ok output) :
    (collected parts).output = .ok output := by
  apply Gathered.output_eq_ok_iff.mpr
  rw [values_collected]
  cases format with
  | none =>
      cases hformat
      have hnone : givenOf .output parts = [] := List.map_eq_nil_iff.mp h.formats
      exact Or.inl ⟨by rw [hnone, List.map_nil], rfl⟩
  | some value =>
      obtain ⟨given, hgiven, rfl⟩ := List.map_eq_singleton_iff.mp h.formats
      obtain ⟨f, hf⟩ : ∃ f, OutputFormat.ofName given.value = .ok f := by
        cases hname : OutputFormat.ofName given.value with
        | ok f => exact ⟨f, rfl⟩
        | error e =>
            rw [formatOf, hname] at hformat
            cases hformat
      rw [formatOf, hf] at hformat
      cases hformat
      exact Or.inr ⟨given, f, by rw [hgiven]; rfl, hf, rfl⟩

/-- A format that does not exist is refused, as it is given. -/
theorem output_of_error (h : Arranges parts source format delimiters)
    (hformat : formatOf format = .error e) :
    ∃ given, givenOf .output parts = [given] ∧
      (collected parts).output = .error (.format given e) := by
  cases format with
  | none => cases hformat
  | some value =>
      obtain ⟨given, hgiven, rfl⟩ := List.map_eq_singleton_iff.mp h.formats
      refine ⟨given, hgiven, ?_⟩
      cases hname : OutputFormat.ofName given.value with
      | ok f =>
          rw [formatOf, hname] at hformat
          cases hformat
      | error e' =>
          rw [formatOf, hname] at hformat
          cases hformat
          simp [Gathered.output, values_collected, hgiven, hname]

/-- **Where the format exists**, the run does not depend on the arrangement. -/
theorem runIn_of_ok (h : Arranges parts source format delimiters) (hread : Settings.read env = .ok settings)
    (hformat : formatOf format = .ok output) (command : CommandName) :
    runIn env (argumentsOf command parts) =
      acceptedRun settings (outsideOf env) command output delimiters source := by
  have hrequest := Request.ofArguments_argumentsOf h.wellFormed command
  rw [← acceptedRun_perm h.delimiters]
  generalize hgiven : (givenOf .delimiter parts).map Given.value = given
  have hdelimiters : (collected parts).delimiters = .ok given := by
    rw [delimiters_collected, hgiven]
  unfold Command.ofGathered at hrequest
  rw [h.output_of_ok hformat, hdelimiters, h.text_eq] at hrequest
  cases command with
  | split => exact runIn_of_request hread hrequest
  | signature =>
      cases given with
      | nil => exact runIn_of_request hread hrequest
      | cons d given => exact runIn_of_misused hread hrequest

/-- **Where it does not**, the complaint alone depends on how it is given. -/
theorem runIn_of_error (h : Arranges parts source format delimiters)
    (hread : Settings.read env = .ok settings) (hformat : formatOf format = .error e)
    (command : CommandName) :
    ∃ given, givenOf .output parts = [given] ∧
      runIn env (argumentsOf command parts) =
        ⟨outsideOf env, [], .error (.arguments (.format given e))⟩ := by
  obtain ⟨given, hgiven, houtput⟩ := h.output_of_error hformat
  have hrequest := Request.ofArguments_argumentsOf h.wellFormed command
  unfold Command.ofGathered at hrequest
  rw [houtput] at hrequest
  exact ⟨given, hgiven, runIn_of_misused hread hrequest⟩

end Arranges

/-! ## What can be seen of a run -/

/-- How a complaint shows the output formats that are given. -/
def shownFormats (parts : List Part) : List String :=
  (givenOf .output parts).map (Given.shown .output)

/-- A value that is not empty is shown as it is. -/
theorem Given.shown_of_ne {given : Given} (h : given.value ≠ "") (name : OptionName) :
    given.shown name = given.value := by
  have hempty : given.value.isEmpty = false := by simpa using h
  simp [Given.shown, hempty]

/-- **The form shows in an empty value alone.** -/
theorem Arranges.shownFormats_eq (h : Arranges parts source format delimiters) (hformat : format ≠ some "") :
    shownFormats parts = format.toList := by
  rw [← h.formats, shownFormats]
  apply List.map_congr_left
  intro given hgiven
  apply Given.shown_of_ne
  intro hempty
  have hvalue : given.value ∈ format.toList := h.formats ▸ List.mem_map_of_mem hgiven
  rw [hempty] at hvalue
  exact hformat (Option.mem_toList.mp hvalue)

/-- What is given for an option is given by a part. -/
theorem exists_form_of_mem_givenOf {name : OptionName} {given : Given} (h : given ∈ givenOf name parts) :
    ∃ form value, Part.option name form value ∈ parts ∧ given = form.given value := by
  obtain ⟨o, ho, rfl⟩ := List.mem_map.mp h
  obtain ⟨hmem, hname⟩ := List.mem_filter.mp ho
  obtain ⟨part, hpart, hoption⟩ := List.mem_filterMap.mp hmem
  cases part with
  | text t => cases hoption
  | option name' form value =>
      cases hoption
      obtain rfl : name' = name := by simpa using hname
      exact ⟨form, value, hpart, rfl⟩

/-- The outcome where an output format is refused. -/
def refused (outside : Environment) (given : Given) (e : UnknownFormat) : Outcome :=
  ⟨outside, [], .error (.arguments (.format given e))⟩

/-- A refusal shows what is given, and nothing else of it. -/
theorem answer_refused (outside : Environment) (given : Given) (e : UnknownFormat) (w : Wording)
    (arguments : List String) : (refused outside given e).answer w arguments =
      (1, "", "Error: " ++ formatMessage given e ++ "\n") := rfl

theorem answer_refused_congr {given₁ given₂ : Given} (h : given₁.shown .output = given₂.shown .output)
    (outside : Environment) (e : UnknownFormat) (w : Wording) (arguments₁ arguments₂ : List String) :
    (refused outside given₁ e).answer w arguments₁ = (refused outside given₂ e).answer w arguments₂ := by
  have hmessage : formatMessage given₁ e = formatMessage given₂ e := by
    rw [formatMessage, formatMessage, h]
  rw [answer_refused, answer_refused, hmessage]

/-- **Two arrangements** have the same run, unless their format is refused. -/
theorem Arranges.runIn_cases (h₁ : Arranges parts₁ source format delimiters)
    (h₂ : Arranges parts₂ source format delimiters) (command : CommandName) (env : Environment) :
    runIn env (argumentsOf command parts₁) = runIn env (argumentsOf command parts₂) ∨
      ∃ given₁ given₂ e, givenOf .output parts₁ = [given₁] ∧ givenOf .output parts₂ = [given₂] ∧
        runIn env (argumentsOf command parts₁) = refused (outsideOf env) given₁ e ∧
        runIn env (argumentsOf command parts₂) = refused (outsideOf env) given₂ e := by
  cases hread : Settings.read env with
  | error e => exact Or.inl (by rw [runIn_of_misread hread, runIn_of_misread hread])
  | ok settings =>
      cases hformat : formatOf format with
      | ok output =>
          rw [h₁.runIn_of_ok hread hformat, h₂.runIn_of_ok hread hformat]
          exact Or.inl rfl
      | error e =>
          obtain ⟨given₁, hgiven₁, hrun₁⟩ := h₁.runIn_of_error hread hformat command
          obtain ⟨given₂, hgiven₂, hrun₂⟩ := h₂.runIn_of_error hread hformat command
          exact Or.inr ⟨given₁, given₂, e, hgiven₁, hgiven₂, hrun₁, hrun₂⟩

/-- Arranged arguments are at fault only where delimiters are given to a command that takes none. -/
theorem Arranges.of_result_usage (h : Arranges parts source format delimiters) {command : CommandName}
    (hresult : (runIn env (argumentsOf command parts)).result = .error (.arguments .usage)) :
    command = .signature ∧ delimiters ≠ [] := by
  cases hread : Settings.read env with
  | error e =>
      rw [runIn_of_misread hread] at hresult
      cases hresult
  | ok settings =>
      cases hformat : formatOf format with
      | error e =>
          obtain ⟨given, -, hrun⟩ := h.runIn_of_error hread hformat command
          rw [hrun] at hresult
          cases hresult
      | ok output =>
          rw [h.runIn_of_ok hread hformat] at hresult
          by_contra hfits
          rw [acceptedRun, if_neg hfits, Request.run] at hresult
          revert hresult
          cases (Command.run settings (Command.ofParts command output delimiters source)).value <;>
            simp [Except.mapError]

/-- **An empty format is refused**, in the words of the form in which it is given. -/
theorem Arranges.stderr_of_empty (h : Arranges parts source (some "") delimiters)
    (hread : Settings.read env = .ok settings) (command : CommandName) :
    ∃ form, Part.option .output form "" ∈ parts ∧
      ∀ w arguments, (runIn env (argumentsOf command parts)).stderr w arguments =
        "Error: " ++ formatMessage (form.given "") ⟨""⟩ ++ "\n" := by
  obtain ⟨given, hgiven, hrun⟩ := h.runIn_of_error hread (e := ⟨""⟩) rfl command
  have hmem : given ∈ givenOf .output parts := by
    rw [hgiven]
    exact List.mem_singleton_self given
  obtain ⟨form, value, hpart, rfl⟩ := exists_form_of_mem_givenOf hmem
  have hvalue : value = "" := by
    have hformats := h.formats
    rw [hgiven] at hformats
    simpa using hformats
  subst hvalue
  refine ⟨form, hpart, fun w arguments => ?_⟩
  rw [hrun]
  rfl

/-- Where a format is refused, order and form matter to the standard error alone. -/
theorem Arranges.exit_stdout_eq (h₁ : Arranges parts₁ source format delimiters)
    (h₂ : Arranges parts₂ source format delimiters) (command : CommandName) (env : Environment) :
    (runIn env (argumentsOf command parts₁)).exit = (runIn env (argumentsOf command parts₂)).exit ∧
      (runIn env (argumentsOf command parts₁)).stdout =
        (runIn env (argumentsOf command parts₂)).stdout := by
  rcases h₁.runIn_cases h₂ command env with hrun | ⟨_, _, _, _, _, hrun₁, hrun₂⟩
  · rw [hrun]
    exact ⟨rfl, rfl⟩
  · rw [hrun₁, hrun₂]
    exact ⟨rfl, rfl⟩

/-- **Order and form of the options do not matter** in an environment that a run really has. -/
theorem Arranges.answer_eq (h₁ : Arranges parts₁ source format delimiters)
    (h₂ : Arranges parts₂ source format delimiters) {command : CommandName} {w : Wording}
    (hshown : format = some "" → shownFormats parts₁ = shownFormats parts₂)
    (husage : command = .signature → delimiters ≠ [] → ∀ outside,
      w.usage outside (argumentsOf command parts₁) = w.usage outside (argumentsOf command parts₂)) :
    (runIn env (argumentsOf command parts₁)).answer w (argumentsOf command parts₁) =
      (runIn env (argumentsOf command parts₂)).answer w (argumentsOf command parts₂) := by
  have hsame : shownFormats parts₁ = shownFormats parts₂ := by
    by_cases hformat : format = some ""
    · exact hshown hformat
    · rw [h₁.shownFormats_eq hformat, h₂.shownFormats_eq hformat]
  rcases h₁.runIn_cases h₂ command env with hrun | ⟨given₁, given₂, e, hgiven₁, hgiven₂, hrun₁, hrun₂⟩
  · rw [← hrun]
    apply Outcome.answer_congr
    intro hresult
    obtain ⟨hcommand, hdelimiters⟩ := h₁.of_result_usage hresult
    exact husage hcommand hdelimiters _
  · rw [shownFormats, shownFormats, hgiven₁, hgiven₂] at hsame
    rw [hrun₁, hrun₂]
    exact answer_refused_congr (List.cons.inj hsame).1 _ e w _ _

/-- **Order and form of the options do not matter.** Let two collections of parts arrange the same text,
    the same output format, if any, and the same delimiters, these in any order. Then a command answers the
    same to both, provided that the format is not empty or that both write it in forms that show an empty
    value alike. (Delimiters are given to `split` alone; of other commands with them the same has to be
    said in the words of the libraries.) In any case the exit status and the standard output are the same.
    Where the settings are right, an empty format is refused; what the standard error says of it names the
    option in the form in which it is given, and is otherwise the same. -/
theorem run_rearranged (h₁ : Arranges parts₁ source format delimiters)
    (h₂ : Arranges parts₂ source format delimiters) (command : CommandName) (env : Environment)
    (file : Option String) :
    ((format = some "" → shownFormats parts₁ = shownFormats parts₂) →
        ∀ w, (command = .signature → delimiters ≠ [] → ∀ outside,
          w.usage outside (argumentsOf command parts₁) = w.usage outside (argumentsOf command parts₂)) →
        (run (argumentsOf command parts₁) env file).answer w (argumentsOf command parts₁) =
          (run (argumentsOf command parts₂) env file).answer w (argumentsOf command parts₂)) ∧
      (run (argumentsOf command parts₁) env file).exit =
        (run (argumentsOf command parts₂) env file).exit ∧
      (run (argumentsOf command parts₁) env file).stdout =
        (run (argumentsOf command parts₂) env file).stdout ∧
      (format = some "" → ∀ loaded settings, withFile env file = .ok loaded →
        Settings.read loaded = .ok settings →
        ∃ form, Part.option .output form "" ∈ parts₁ ∧
          ∀ w, (run (argumentsOf command parts₁) env file).stderr w (argumentsOf command parts₁) =
            "Error: " ++ formatMessage (form.given "") ⟨""⟩ ++ "\n") := by
  cases hload : withFile env file with
  | error e =>
      rw [run_of_unstorable hload, run_of_unstorable hload]
      refine ⟨fun _ w _ => ?_, rfl, rfl, ?_⟩
      · exact Outcome.answer_congr fun husage => by cases husage
      · rintro _ loaded settings ⟨⟩
  | ok loaded =>
      rw [run_of_loaded hload, run_of_loaded hload]
      obtain ⟨hexit, hstdout⟩ := h₁.exit_stdout_eq h₂ command loaded
      refine ⟨fun hshown w husage => h₁.answer_eq h₂ hshown husage, hexit, hstdout, ?_⟩
      rintro rfl loaded' settings hload' hread
      cases hload'
      obtain ⟨form, hpart, hstderr⟩ := h₁.stderr_of_empty hread command
      exact ⟨form, hpart, fun w => hstderr w _⟩

/-- An environment whose log shows everything. -/
def traceEnvironment : Environment := .ofList [(Settings.levelVariable, "trace")]

/-- The text between its options and behind them, and a command that takes no delimiters. -/
theorem run_rearranged_trace :
    Arranges [.option .output (.apart .letter) "table", .option .delimiter .joined ";", .text "a;b,c",
        .option .delimiter (.apart .name) ","] "a;b,c" (some "table") [",", ";"] ∧
      Arranges [.option .delimiter (.equated .name) ",", .option .output (.equated .name) "table",
        .option .delimiter (.equated .letter) ";", .text "a;b,c"] "a;b,c" (some "table") [",", ";"] ∧
      (∀ w, (run ["split", "-o", "table", "-d;", "a;b,c", "--delimiter", ","] traceEnvironment none).answer w
          ["split", "-o", "table", "-d;", "a;b,c", "--delimiter", ","] =
        (run ["split", "--delimiter=,", "--output=table", "-d=;", "a;b,c"] traceEnvironment none).answer w
          ["split", "--delimiter=,", "--output=table", "-d=;", "a;b,c"]) ∧
      ∀ w, (run ["signature", "-otable", "int f()"] (Environment.ofList []) none).answer w
          ["signature", "-otable", "int f()"] =
        (run ["signature", "int f()", "--output", "table"] (Environment.ofList []) none).answer w
          ["signature", "int f()", "--output", "table"] := by
  have h₁ : Arranges [.option .output (.apart .letter) "table", .option .delimiter .joined ";",
      .text "a;b,c", .option .delimiter (.apart .name) ","] "a;b,c" (some "table") [",", ";"] :=
    ⟨by decide, rfl, rfl, by decide⟩
  have h₂ : Arranges [.option .delimiter (.equated .name) ",", .option .output (.equated .name) "table",
      .option .delimiter (.equated .letter) ";", .text "a;b,c"] "a;b,c" (some "table") [",", ";"] :=
    ⟨by decide, rfl, rfl, by decide⟩
  have h₃ : Arranges [.option .output .joined "table", .text "int f()"] "int f()" (some "table") [] :=
    ⟨by decide, rfl, rfl, by decide⟩
  have h₄ : Arranges [.text "int f()", .option .output (.apart .name) "table"] "int f()" (some "table")
      [] := ⟨by decide, rfl, rfl, by decide⟩
  have hnonempty : ∀ {p : Prop}, some "table" = some "" → p := fun h => absurd h (by decide)
  exact ⟨h₁, h₂,
    fun w => (run_rearranged h₁ h₂ .split _ none).1 hnonempty w (fun h => absurd h (by decide)),
    fun w => (run_rearranged h₃ h₄ .signature _ none).1 hnonempty w fun _ h => absurd rfl h⟩

/-- Of an empty output format the standard error shows how it is written. -/
theorem run_shows_form_of_empty_format :
    Arranges [.option .output (.apart .letter) "", .text "a"] "a" (some "") [] ∧
      Arranges [.option .output (.equated .letter) "", .text "a"] "a" (some "") [] ∧
      ∀ w, (run ["split", "-o", "", "a"] (Environment.ofList []) none).stderr w ["split", "-o", "", "a"] ≠
        (run ["split", "-o=", "a"] (Environment.ofList []) none).stderr w ["split", "-o=", "a"] := by
  have h₁ : Arranges [.option .output (.apart .letter) "", .text "a"] "a" (some "") [] :=
    ⟨by decide, rfl, rfl, by decide⟩
  have h₂ : Arranges [.option .output (.equated .letter) "", .text "a"] "a" (some "") [] :=
    ⟨by decide, rfl, rfl, by decide⟩
  have hrun₁ : (run ["split", "-o", "", "a"] (Environment.ofList []) none).result =
      .error (.arguments (.format ⟨.letter, false, ""⟩ ⟨""⟩)) := by rfl
  have hrun₂ : (run ["split", "-o=", "a"] (Environment.ofList []) none).result =
      .error (.arguments (.format ⟨.letter, true, ""⟩ ⟨""⟩)) := by rfl
  have hne : "Error: " ++ formatMessage ⟨.letter, false, ""⟩ ⟨""⟩ ++ "\n" ≠
      "Error: " ++ formatMessage ⟨.letter, true, ""⟩ ⟨""⟩ ++ "\n" := by decide +kernel
  refine ⟨h₁, h₂, fun w => ?_⟩
  rw [Outcome.stderr_of_result_eq hrun₁, Outcome.stderr_of_result_eq hrun₂]
  exact hne

end MethodSig.CommandLine
