import MethodSig.CommandLine.Request
import Mathlib.Tactic.SplitIfs

/-!
# `Proofs.Arguments` — what accepted arguments say

A command is accepted exactly if its parts are: at most one output format, which exists, a value for every
option, one text, and nothing else (`Command.ofGathered_eq_ok_iff`). What it then does depends on the values
that were given for the options (`givenValues`): the format is the given one or else that of the settings
(`outputInUse_eq`), and the delimiters are all the given ones or else those of the settings
(`delimitersInUse_eq`). An empty value is a value.

A delimiter with its option in front of everything else that follows `split` adds itself to the delimiters
and changes nothing else, whatever follows (`Request.ofArguments_cons_delimiter`).
-/

namespace MethodSig.CommandLine

variable {arguments rest : List String} {settings : Settings} {g : Gathered} {c : Command}
  {name : CommandName} {output : Option OutputFormat} {delimiters : List String} {text v : String}

/-! ## The parts of a command -/

/-- Of an output format there is no value, or one, which names it. -/
theorem Gathered.output_eq_ok_iff :
    g.output = .ok output ↔
      g.values .output = [] ∧ output = none ∨
        ∃ given f, g.values .output = [some given] ∧ OutputFormat.ofName given.value = .ok f ∧
          output = some f := by
  unfold Gathered.output
  constructor
  · intro h
    split at h
    · rename_i hvalues
      cases h
      exact Or.inl ⟨hvalues, rfl⟩
    · cases h
    · rename_i given others hvalues
      split at h
      · cases h
      · rename_i f hf
        by_cases hothers : others.isEmpty = true
        · rw [if_pos hothers] at h
          cases h
          rw [List.isEmpty_iff.mp hothers] at hvalues
          exact Or.inr ⟨given, f, hvalues, hf, rfl⟩
        · rw [if_neg hothers] at h
          cases h
  · rintro (⟨hvalues, rfl⟩ | ⟨given, f, hvalues, hf, rfl⟩)
    · simp only [hvalues]
    · simp only [hvalues, hf]
      rfl

/-- Each value of the delimiters is there. -/
theorem Gathered.delimiters_eq_ok_iff :
    g.delimiters = .ok delimiters ↔
      (g.values .delimiter).all Option.isSome = true ∧
        delimiters = (g.values .delimiter).filterMap fun given => given.map Given.value := by
  unfold Gathered.delimiters
  by_cases hall : (g.values .delimiter).all Option.isSome = true
  · rw [if_pos hall]
    simp [hall, eq_comm]
  · rw [if_neg hall]
    simp [hall]

/-- There is one text, and nothing else. -/
theorem Gathered.text_eq_ok_iff : g.text = .ok text ↔ g.strange = false ∧ g.texts = [text] := by
  unfold Gathered.text
  split
  · rename_i t hstrange htexts
    simp [hstrange, htexts]
  · rename_i hnot
    constructor
    · intro h
      cases h
    · rintro ⟨hstrange, htexts⟩
      exact absurd htexts (hnot text hstrange)

/-- The command of this name with these parts. -/
def Command.ofParts (name : CommandName) (output : Option OutputFormat) (delimiters : List String)
    (text : String) : Command :=
  match name with
  | .signature => .signature output text
  | .split => .split output delimiters text

/-- **A command is accepted exactly if its parts are**; and only `split` takes delimiters. -/
theorem Command.ofGathered_eq_ok_iff :
    Command.ofGathered name g = .ok c ↔
      ∃ output delimiters text, g.output = .ok output ∧ g.delimiters = .ok delimiters ∧
        g.text = .ok text ∧ (name = .signature → delimiters = []) ∧
        c = Command.ofParts name output delimiters text := by
  constructor
  · intro h
    unfold Command.ofGathered at h
    cases houtput : g.output with
    | error e =>
        rw [houtput] at h
        cases h
    | ok output =>
        cases hdelimiters : g.delimiters with
        | error e =>
            rw [houtput, hdelimiters] at h
            cases h
        | ok delimiters =>
            cases htext : g.text with
            | error e =>
                rw [houtput, hdelimiters, htext] at h
                cases h
            | ok text =>
                rw [houtput, hdelimiters, htext] at h
                refine ⟨output, delimiters, text, rfl, rfl, rfl, ?_⟩
                cases name with
                | signature =>
                    cases delimiters with
                    | nil =>
                        cases h
                        exact ⟨fun _ => rfl, rfl⟩
                    | cons d delimiters => cases h
                | split =>
                    cases h
                    exact ⟨fun hname => (by cases hname), rfl⟩
  · rintro ⟨output, delimiters, text, houtput, hdelimiters, htext, hname, rfl⟩
    unfold Command.ofGathered
    rw [houtput, hdelimiters, htext]
    cases name with
    | signature =>
        rw [hname rfl]
        rfl
    | split => rfl

/-! ## Accepted arguments -/

/-- What stands behind the command, gathered. -/
def gathered (arguments : List String) : Gathered :=
  gather (itemsOfArguments arguments).2 (itemsOfArguments arguments).1.tail

/-- The command that the arguments begin with. -/
def commandName? (arguments : List String) : Option CommandName :=
  (itemsOfArguments arguments).1.head?.bind CommandName.ofItem?

theorem Request.ofArguments_eq (arguments : List String) :
    Request.ofArguments arguments =
      if (itemsOfArguments arguments).1.contains .help then .ok (.help (commandName? arguments))
      else match commandName? arguments with
        | none => .error .usage
        | some name => (Command.ofGathered name (gathered arguments)).map .command := rfl

/-- **A command is run** if nobody asks for help and the command is accepted. -/
theorem Request.ofArguments_eq_command_iff :
    Request.ofArguments arguments = .ok (.command c) ↔
      (itemsOfArguments arguments).1.contains .help = false ∧
        ∃ name, commandName? arguments = some name ∧
          Command.ofGathered name (gathered arguments) = .ok c := by
  rw [Request.ofArguments_eq]
  cases hhelp : (itemsOfArguments arguments).1.contains .help with
  | true => simp
  | false =>
      cases hname : commandName? arguments with
      | none => simp
      | some name =>
          cases hcommand : Command.ofGathered name (gathered arguments) with
          | error e => simp [hcommand, Except.map]
          | ok c' => simp [hcommand, Except.map]

/-! ## Values of options -/

/-- The values that are given for an option, in order. -/
def givenValues (name : OptionName) (arguments : List String) : List String :=
  ((gathered arguments).values name).filterMap fun given => given.map Given.value

/-- The output format that the arguments ask for, or else the settings. -/
def outputInUse (settings : Settings) (arguments : List String) : Except UnknownFormat OutputFormat :=
  match givenValues .output arguments with
  | [] => .ok settings.output
  | value :: _ => OutputFormat.ofName value

/-- The delimiters that the arguments give, or else the settings. -/
def delimitersInUse (settings : Settings) (arguments : List String) : List String :=
  if (givenValues .delimiter arguments).isEmpty then settings.delimiters
  else givenValues .delimiter arguments

/-- The output format of a command under some settings. -/
def Command.format (settings : Settings) : Command → OutputFormat
  | .signature output _ | .split output _ _ => output.getD settings.output

/-- The values of an option that has no more than those that are there. -/
theorem givenValues_output (h : (gathered arguments).output = .ok output) :
    outputInUse settings arguments = .ok (output.getD settings.output) := by
  unfold outputInUse givenValues
  rcases Gathered.output_eq_ok_iff.mp h with ⟨hvalues, rfl⟩ | ⟨given, f, hvalues, hf, rfl⟩
  · rw [hvalues]
    rfl
  · rw [hvalues]
    exact hf

/-- **The format of an accepted command** is the given one, or that of the settings. -/
theorem outputInUse_eq (h : Request.ofArguments arguments = .ok (.command c)) :
    outputInUse settings arguments = .ok (c.format settings) := by
  obtain ⟨-, name, -, hcommand⟩ := Request.ofArguments_eq_command_iff.mp h
  obtain ⟨output, delimiters, text, houtput, -, -, -, rfl⟩ := Command.ofGathered_eq_ok_iff.mp hcommand
  rw [givenValues_output houtput]
  cases name <;> rfl

/-- **The delimiters of an accepted command** are the given ones, or those of the settings. -/
theorem delimitersInUse_eq {source : String}
    (h : Request.ofArguments arguments = .ok (.command (.split output delimiters source))) :
    delimitersInUse settings arguments =
      if delimiters.isEmpty then settings.delimiters else delimiters := by
  obtain ⟨-, name, -, hcommand⟩ := Request.ofArguments_eq_command_iff.mp h
  obtain ⟨_, _, _, -, hdelimiters, -, -, heq⟩ := Command.ofGathered_eq_ok_iff.mp hcommand
  cases name with
  | signature => cases heq
  | split =>
      cases heq
      rw [delimitersInUse, (Gathered.delimiters_eq_ok_iff.mp hdelimiters).2]
      rfl

/-! ## One argument more -/

theorem itemsOfArguments_cons {argument : String} (h : argument ≠ "--") :
    itemsOfArguments (argument :: rest) =
      (itemsOfArgument argument ++ (itemsOfArguments rest).1, (itemsOfArguments rest).2) := by
  rw [itemsOfArguments, if_neg h]

theorem itemsOfArguments_split :
    itemsOfArguments ("split" :: rest) =
      (.word "split" :: (itemsOfArguments rest).1, (itemsOfArguments rest).2) :=
  itemsOfArguments_cons (by decide)

/-- The argument that gives a delimiter by the name of its option. -/
def delimiterArgument (v : String) : String := "--delimiter=" ++ v

/-- What stands behind two dashes is cut at its first equals sign. -/
theorem longItem_equated {front : List Char} (hfront : ∀ c ∈ front, (c != '=') = true)
    (value : List Char) :
    longItem (front ++ '=' :: value) = .ofName (String.ofList front) (some (String.ofList value)) := by
  unfold longItem
  rw [List.takeWhile_append_of_pos hfront, List.dropWhile_append_of_pos hfront]
  simp

/-- An option by its name, with its value behind an equals sign. -/
theorem itemsOfArgument_name_equated (name : OptionName) (value : String) :
    itemsOfArgument (name.text .name ++ "=" ++ value) = [.option name .name (some value)] := by
  obtain ⟨front, hfront, htext, hname⟩ : ∃ front : List Char, (∀ c ∈ front, (c != '=') = true) ∧
      (name.text .name).toList = '-' :: '-' :: front ∧
      Item.ofName (String.ofList front) (some value) = .option name .name (some value) := by
    cases name with
    | output => exact ⟨"output".toList, List.all_eq_true.mp (by decide), rfl, rfl⟩
    | delimiter => exact ⟨"delimiter".toList, List.all_eq_true.mp (by decide), rfl, rfl⟩
  have htoList : (name.text .name ++ "=" ++ value).toList =
      '-' :: '-' :: (front ++ '=' :: value.toList) := by
    rw [String.toList_append, String.toList_append, htext]
    simp
  unfold itemsOfArgument
  rw [htoList]
  show [longItem (front ++ '=' :: value.toList)] = _
  rw [longItem_equated hfront, String.ofList_toList, hname]

theorem itemsOfArgument_delimiterArgument (v : String) :
    itemsOfArgument (delimiterArgument v) = [.option .delimiter .name (some v)] :=
  itemsOfArgument_name_equated .delimiter v

theorem itemsOfArguments_split_delimiter :
    itemsOfArguments ("split" :: delimiterArgument v :: rest) =
      (.word "split" :: .option .delimiter .name (some v) :: (itemsOfArguments rest).1,
        (itemsOfArguments rest).2) := by
  have hne : delimiterArgument v ≠ "--" := by
    intro h
    have hdashes : itemsOfArgument "--" = [.unknown] := by decide
    rw [← h, itemsOfArgument_delimiterArgument] at hdashes
    exact absurd hdashes (by simp)
  rw [itemsOfArguments_split, itemsOfArguments_cons hne, itemsOfArgument_delimiterArgument]
  rfl

/-- With a further delimiter in front. -/
def Gathered.addDelimiter (v : String) (g : Gathered) : Gathered :=
  { g with options := (.delimiter, some ⟨.name, true, v⟩) :: g.options }

theorem Gathered.output_addDelimiter : (g.addDelimiter v).output = g.output := rfl

theorem Gathered.text_addDelimiter : (g.addDelimiter v).text = g.text := rfl

theorem Gathered.delimiters_addDelimiter :
    (g.addDelimiter v).delimiters = g.delimiters.map fun delimiters => v :: delimiters := by
  have hvalues : (g.addDelimiter v).values .delimiter =
      some ⟨.name, true, v⟩ :: g.values .delimiter := rfl
  unfold Gathered.delimiters
  rw [hvalues]
  by_cases hall : (g.values .delimiter).all Option.isSome = true
  · rw [if_pos hall]
    simp [hall, Except.map]
  · rw [if_neg hall]
    simp [hall, Except.map]

/-- The command with a further delimiter in front. -/
def Command.addDelimiter (v : String) : Command → Command
  | .split output delimiters source => .split output (v :: delimiters) source
  | .signature output text => .signature output text

theorem Command.ofGathered_addDelimiter :
    Command.ofGathered .split (g.addDelimiter v) =
      (Command.ofGathered .split g).map (Command.addDelimiter v) := by
  unfold Command.ofGathered
  rw [Gathered.output_addDelimiter, Gathered.text_addDelimiter, Gathered.delimiters_addDelimiter]
  cases g.output with
  | error e => rfl
  | ok output =>
      cases g.delimiters with
      | error e => rfl
      | ok delimiters => cases g.text <;> rfl

/-- The request with a further delimiter in front. -/
def Request.addDelimiter (v : String) : Request → Request
  | .help topic => .help topic
  | .command c => .command (c.addDelimiter v)

/-- **A delimiter adds itself** and changes nothing else, whatever follows. -/
theorem Request.ofArguments_cons_delimiter (v : String) (rest : List String) :
    Request.ofArguments ("split" :: delimiterArgument v :: rest) =
      (Request.ofArguments ("split" :: rest)).map (Request.addDelimiter v) := by
  have hgathered : gathered ("split" :: delimiterArgument v :: rest) =
      (gathered ("split" :: rest)).addDelimiter v := by
    unfold gathered
    rw [itemsOfArguments_split_delimiter, itemsOfArguments_split]
    rfl
  have hname : commandName? ("split" :: delimiterArgument v :: rest) = some .split := by
    unfold commandName?
    rw [itemsOfArguments_split_delimiter]
    rfl
  have hname' : commandName? ("split" :: rest) = some .split := by
    unfold commandName?
    rw [itemsOfArguments_split]
    rfl
  have hhelp : (itemsOfArguments ("split" :: delimiterArgument v :: rest)).1.contains .help =
      (itemsOfArguments ("split" :: rest)).1.contains .help := by
    rw [itemsOfArguments_split_delimiter, itemsOfArguments_split]
    rfl
  rw [Request.ofArguments_eq, Request.ofArguments_eq, hgathered, hname, hname', hhelp]
  simp only [Command.ofGathered_addDelimiter]
  cases (itemsOfArguments ("split" :: rest)).1.contains .help with
  | true => rfl
  | false => cases Command.ofGathered .split (gathered ("split" :: rest)) <;> rfl

/-! ## Texts -/

/-- The argument is a text: it is understood neither as an option nor as the end of the options. -/
def IsText (argument : String) : Prop :=
  argument ≠ "--" ∧ itemsOfArgument argument = [.word argument]

/-- What does not begin with a dash is a text. -/
theorem isText_of_head? {argument : String} (h : argument.toList.head? ≠ some '-') : IsText argument := by
  refine ⟨?_, ?_⟩
  · rintro rfl
    exact h rfl
  · unfold itemsOfArgument
    split
    · rename_i heq
      rw [heq] at h
      exact absurd rfl h
    · rename_i heq
      rw [heq] at h
      exact absurd rfl h
    · rfl

/-- None of the items is a text. -/
def HoldNoText (items : List Item) : Prop := ∀ item ∈ items, ∀ t, item ≠ .word t

theorem holdNoText_ofName (s : String) (attached : Option String) :
    HoldNoText [.ofName s attached] := by
  intro item hitem t
  rw [List.mem_singleton.mp hitem]
  unfold Item.ofName
  split_ifs <;> simp

theorem holdNoText_ofLetter (letter : Char) (attached : Option String) :
    HoldNoText [.ofLetter letter attached] := by
  intro item hitem t
  rw [List.mem_singleton.mp hitem]
  unfold Item.ofLetter
  split_ifs <;> simp

theorem holdNoText_of_letterItems? {letters : List Char} {items : List Item}
    (h : letterItems? letters = some items) : HoldNoText items := by
  induction letters generalizing items with
  | nil =>
      cases h
      intro item hitem
      exact absurd hitem List.not_mem_nil
  | cons letter letters ih =>
      rw [letterItems?] at h
      split at h
      · cases h
        exact holdNoText_ofLetter letter _
      · split at h
        · obtain ⟨others, hothers, rfl⟩ := Option.map_eq_some_iff.mp h
          intro item hitem
          rcases List.mem_cons.mp hitem with rfl | hitem
          · exact holdNoText_ofLetter letter none _ List.mem_cons_self
          · exact ih hothers item hitem
        · cases h

theorem holdNoText_of_shortItems? {letter : Char} {letters : List Char} {items : List Item}
    (h : shortItems? letter letters = some items) : HoldNoText items := by
  unfold shortItems? at h
  by_cases hempty : letters.isEmpty = true
  · rw [if_pos hempty] at h
    cases h
    exact holdNoText_ofLetter letter none
  · rw [if_neg hempty] at h
    by_cases hequals : letters.contains '=' = true
    · rw [if_pos hequals] at h
      by_cases hascii : letter.toNat < 0x80
      · simp only [if_pos hascii] at h
        cases h
        exact holdNoText_ofLetter letter _
      · simp only [if_neg hascii] at h
        cases h
    · rw [if_neg hequals] at h
      exact holdNoText_of_letterItems? h

/-- **An argument is one text, or holds none.** -/
theorem itemsOfArgument_cases (argument : String) :
    itemsOfArgument argument = [.word argument] ∨ HoldNoText (itemsOfArgument argument) := by
  unfold itemsOfArgument
  split
  · right
    unfold longItem
    split <;> exact holdNoText_ofName _ _
  · rename_i letter letters _ _
    cases hshort : shortItems? letter letters with
    | none => exact Or.inl rfl
    | some items => exact Or.inr (holdNoText_of_shortItems? hshort)
  · exact Or.inl rfl

/-- Items without a text add none. -/
theorem texts_gather_of_holdNoText {texts : List String} {items : List Item} (h : HoldNoText items) :
    (gather texts items).texts = texts := by
  have tail : ∀ {item : Item} {items : List Item}, HoldNoText (item :: items) → HoldNoText items :=
    fun h other hother => h other (List.mem_cons_of_mem _ hother)
  fun_induction gather texts items with
  | case1 => rfl
  | case2 name spelling value items g ih => exact absurd rfl (h (.word value) (by simp) value)
  | case3 name spelling attached items hnot g ih => exact ih (tail h)
  | case4 t items g ih => exact absurd rfl (h (.word t) (by simp) t)
  | case5 items g ih => exact ih (tail h)
  | case6 items g ih => exact ih (tail h)

/-- A text behind `split` is what is split. -/
theorem Request.ofArguments_split_of_isText {source : String} (h : IsText source) :
    Request.ofArguments ["split", source] = .ok (.command (.split none [] source)) := by
  have hitems : itemsOfArguments ["split", source] = ([.word "split", .word source], []) := by
    rw [itemsOfArguments_split, itemsOfArguments_cons h.1, h.2]
    rfl
  unfold Request.ofArguments
  rw [hitems]
  rfl

/-- Behind `--` every argument is a text. -/
theorem Request.ofArguments_split_behind (source : String) :
    Request.ofArguments ["split", "--", source] = .ok (.command (.split none [] source)) := by
  have hitems : itemsOfArguments ["split", "--", source] = ([.word "split"], [source]) := by
    rw [itemsOfArguments_split]
    rfl
  unfold Request.ofArguments
  rw [hitems]
  rfl

/-- **Nothing but a text is split.** -/
theorem isText_of_ofArguments_split {source : String}
    (h : Request.ofArguments ["split", source] = .ok (.command c)) : IsText source := by
  obtain ⟨-, name, -, hcommand⟩ := Request.ofArguments_eq_command_iff.mp h
  obtain ⟨_, _, text, -, -, htext, -, -⟩ := Command.ofGathered_eq_ok_iff.mp hcommand
  have htexts : (gathered ["split", source]).texts = [text] := (Gathered.text_eq_ok_iff.mp htext).2
  unfold gathered at htexts
  rw [itemsOfArguments_split] at htexts
  by_cases hend : source = "--"
  · subst hend
    cases htexts
  · rw [itemsOfArguments_cons hend] at htexts
    rcases itemsOfArgument_cases source with hword | hnone
    · exact ⟨hend, hword⟩
    · have hempty : (gather [] (itemsOfArgument source)).texts = [] := texts_gather_of_holdNoText hnone
      simp [itemsOfArguments, hempty] at htexts

end MethodSig.CommandLine
