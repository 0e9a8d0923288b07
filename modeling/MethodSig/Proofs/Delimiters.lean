import MethodSig.Proofs.Arguments
import MethodSig.Proofs.Ending
import MethodSig.Proofs.Tokens

/-!
# `Proofs.Delimiters` — delimiters of the settings and of the arguments

A setting of the delimiters stands for a text (`StandsFor`): for itself, or for a space where it is missing
or empty. The settings hold the characters of that text, one by one, and the splitter for them is the one
for the text as a single delimiter (`ofDelimiters_characters`). So a run that splits at the delimiters of
its settings is the run to which the text is given as an argument, but for the remark that it makes in its
log (`showsMore_of_split`); and a run that does not get as far as splitting is the same run
(`runIn_of_no_command`).

The empty text has two meanings: as a setting it is a space, as an argument it is no delimiter at all.
-/

namespace MethodSig

open Settings (characters)

variable {setting : Option String} {v : String} {settings : Settings}

/-! ## Settings -/

/-- **What a setting of the delimiters stands for**: itself, or a space. -/
inductive StandsFor : Option String → String → Prop
  | given {v : String} (hv : v ≠ "") : StandsFor (some v) v
  | missing : StandsFor none " "
  | empty : StandsFor (some "") " "

theorem StandsFor.delimiters_eq (h : StandsFor setting v) :
    Settings.delimitersOfSetting setting = characters v := by
  cases h with
  | given hv =>
      show (if v.isEmpty then [" "] else characters v) = characters v
      rw [if_neg (by simpa using hv)]
  | missing => rfl
  | empty => rfl

theorem StandsFor.ne_empty (h : StandsFor setting v) : v ≠ "" := by
  cases h with
  | given hv => exact hv
  | missing => decide
  | empty => decide

/-- Together the characters of a text are the text. -/
theorem join_characters (v : String) : String.join (characters v) = v := by
  rw [← String.toList_inj, String.toList_join, characters, List.flatMap_map]
  simp

theorem length_of_mem_characters {d : String} (hd : d ∈ characters v) : d.length = 1 := by
  obtain ⟨c, -, rfl⟩ := List.mem_map.mp hd
  rw [String.length_ofList]
  rfl

/-- **A text separates as its characters do.** -/
theorem ofDelimiters_characters (v : String) :
    Splitter.ofDelimiters (characters v) = Splitter.ofDelimiters [v] := by
  have hsame : (characters v).flatMap String.toList = [v].flatMap String.toList := by
    rw [← String.toList_join, join_characters, List.flatMap_singleton]
  rw [Splitter.ofDelimiters, Splitter.ofDelimiters, hsame]

/-- Where only the variable of the delimiters differs, only the delimiters do. -/
theorem Settings.read_of_agreeBut {env₁ env₂ : Environment} (hread : read env₁ = .ok settings)
    (hagree : env₁.AgreeBut delimitersVariable env₂) :
    read env₂ =
      .ok { settings with delimiters := delimitersOfSetting (env₂ delimitersVariable) } := by
  have houtput : env₁ outputVariable = env₂ outputVariable := hagree _ (by decide)
  have hlevel : env₁ levelVariable = env₂ levelVariable := hagree _ (by decide)
  obtain ⟨hformat, hread_level, -⟩ := read_eq_ok_iff.mp hread
  rw [houtput] at hformat
  rw [hlevel] at hread_level
  exact read_eq_ok_iff.mpr ⟨hformat, hread_level, rfl⟩

/-- **The settings hold the characters** of the text that their variable stands for. -/
theorem StandsFor.delimiters_of_read {env : Environment} (hread : Settings.read env = .ok settings)
    (h : StandsFor (env Settings.delimitersVariable) v) : settings.delimiters = characters v := by
  rw [(Settings.read_eq_ok_iff.mp hread).2.2, h.delimiters_eq]

namespace CommandLine

variable {env₁ env₂ loaded₁ loaded₂ : Environment} {file₁ file₂ : Option String} {rest : List String}

/-! ## Logs with more lines -/

/-- Two runs end and print the same, but the log of the first begins with `extra`. Where arguments are at
    fault, this presumes that the same is said about those of both runs. -/
structure Outcome.ShowsMore (extra : List String) (o₁ o₂ : Outcome) : Prop where
  exit : o₁.exit = o₂.exit
  stderr : ∀ (w : Wording) (given₁ given₂ : List String),
    (o₁.result = .error (.arguments .usage) → w.usage o₁.outside given₁ = w.usage o₂.outside given₂) →
    o₁.stderr w given₁ = o₂.stderr w given₂
  stdout : o₁.stdout = unlines extra ++ o₂.stdout

theorem Outcome.ShowsMore.of_events {o₁ o₂ : Outcome} {extra : List Event} {colored : Bool}
    (hevents : o₁.events = extra ++ o₂.events) (hresult : o₁.result = o₂.result)
    (houtside : o₁.outside = o₂.outside) (hcolored : isColored o₂.outside = colored) :
    ShowsMore (extra.map (Event.line colored)) o₁ o₂ where
  exit := by rw [Outcome.exit, Outcome.exit, hresult]
  stderr := by
    intro w given₁ given₂ husage
    rw [← houtside] at husage
    exact Outcome.stderr_congr hresult houtside husage
  stdout := by
    rw [Outcome.stdout_eq, Outcome.stdout_eq, Outcome.lines, hevents, Outcome.printed, hresult]
    simp [unlines, Outcome.lines, Outcome.printed, houtside, hcolored, String.append_assoc]

/-- Where the arguments are not at fault, the same goes to the standard error. -/
theorem Outcome.ShowsMore.stderr_eq {o₁ o₂ : Outcome} {extra : List String} (h : ShowsMore extra o₁ o₂)
    (haccepted : o₁.result ≠ .error (.arguments .usage)) (w : Wording) (given₁ given₂ : List String) :
    o₁.stderr w given₁ = o₂.stderr w given₂ :=
  h.stderr w given₁ given₂ fun husage => absurd husage haccepted

theorem Outcome.ShowsMore.refl (o : Outcome) : ShowsMore [] o o := @of_events o o [] _ rfl rfl rfl rfl

/-- The remark that the delimiters are those of the settings, at the levels that show it. -/
def remark (colored : Bool) (level : Level) : List String :=
  if level = .debug ∨ level = .trace then [Event.defaultDelimiters.line colored] else []

theorem map_line_shownAt_defaultDelimiters (colored : Bool) (level : Level) :
    (Event.shownAt level [.defaultDelimiters]).map (Event.line colored) = remark colored level := by
  cases level <;> rfl

example : remark false .debug = ["DEBUG sigsplit: No delimiters given, using configured defaults"] := by
  decide

/-! ## Runs with one delimiter more -/

/-- **A run that splits** at the delimiters of its settings shows a remark more than the one to which they
    are given. -/
theorem showsMore_of_split {output : Option OutputFormat} {source : String}
    (hread : Settings.read env₁ = .ok settings)
    (hagree : env₁.AgreeBut Settings.delimitersVariable env₂)
    (hv : StandsFor (env₁ Settings.delimitersVariable) v)
    (hsplit : Request.ofArguments ("split" :: rest) = .ok (.command (.split output [] source))) :
    (runIn env₁ ("split" :: rest)).ShowsMore (remark (isColored env₁) settings.level)
      (runIn env₂ ("split" :: delimiterArgument v :: rest)) := by
  have hread₂ := Settings.read_of_agreeBut hread hagree
  have hsplit₂ : Request.ofArguments ("split" :: delimiterArgument v :: rest) =
      .ok (.command (.split output [v] source)) := by
    rw [Request.ofArguments_cons_delimiter, hsplit]
    rfl
  -- the two splitters are the same
  have hsplitter : Splitter.ofDelimiters [v] =
      Splitter.ofDelimiters (chosenDelimiters settings []) := by
    rw [← ofDelimiters_characters, ← hv.delimiters_of_read hread]
    rfl
  rw [runIn_of_request hread hsplit, runIn_of_request hread₂ hsplit₂,
    run_split (Splitter.ofDelimiters [v]) hsplitter, run_split (Splitter.ofDelimiters [v]) rfl,
    ← map_line_shownAt_defaultDelimiters]
  have houtside : outsideOf env₁ = outsideOf env₂ := outsideOf_of_agreeBut (by decide) hagree
  refine Outcome.ShowsMore.of_events (List.filter_append ..) rfl houtside ?_
  rw [← isColored_outsideOf env₁, houtside]

/-- **A run that runs no command** is the same with a delimiter more. -/
theorem runIn_of_no_command (hread : Settings.read env₁ = .ok settings)
    (hagree : env₁.AgreeBut Settings.delimitersVariable env₂)
    (hnone : ∀ c, Request.ofArguments ("split" :: rest) ≠ .ok (.command c)) :
    runIn env₂ ("split" :: delimiterArgument v :: rest) = runIn env₁ ("split" :: rest) := by
  have hread₂ := Settings.read_of_agreeBut hread hagree
  have houtside : outsideOf env₁ = outsideOf env₂ := outsideOf_of_agreeBut (by decide) hagree
  have hmap := Request.ofArguments_cons_delimiter v rest
  cases harguments : Request.ofArguments ("split" :: rest) with
  | error e =>
      rw [harguments] at hmap
      rw [runIn_of_misused hread₂ hmap, runIn_of_misused hread harguments, houtside]
  | ok request =>
      rw [harguments] at hmap
      cases request with
      | help topic =>
          rw [runIn_of_request hread₂ hmap, runIn_of_request hread harguments, houtside]
          rfl
      | command c => exact absurd harguments (hnone c)

/-- A splitter with a delimiter that is not empty separates something. -/
theorem exists_isSeparator (hv : v ≠ "") : ∃ c, (Splitter.ofDelimiters [v]).isSeparator c = true := by
  cases hchars : v.toList with
  | nil => exact absurd (String.toList_eq_nil_iff.mp hchars) hv
  | cons c cs =>
      refine ⟨c, Splitter.isSeparator_ofDelimiters.mpr ⟨v, List.mem_singleton_self v, ?_⟩⟩
      rw [hchars]
      exact List.mem_cons_self

/-- **Delimiters of the settings and of the arguments come to the same.** Let the settings be right, and
    let `v` be what the setting of the delimiters stands for. Then the settings hold the characters of `v`,
    which split every text as the delimiter `v` does. A text that is split without delimiters ends and
    prints as it does with the delimiter `v` given, in any environment that is otherwise the same, but for
    a remark in front of the log at the levels that show it; where the argument is no text, the remark
    is missing too, and the same is reported if the libraries find the same words for both. Without
    delimiters something always separates, with an empty one nothing does. -/
theorem run_split_configured (hload₁ : withFile env₁ file₁ = .ok loaded₁)
    (hload₂ : withFile env₂ file₂ = .ok loaded₂) (hread : Settings.read loaded₁ = .ok settings)
    (hagree : loaded₁.AgreeBut Settings.delimitersVariable loaded₂)
    (hv : StandsFor (loaded₁ Settings.delimitersVariable) v) :
    ((∀ d ∈ settings.delimiters, d.length = 1) ∧ String.join settings.delimiters = v) ∧
      (∀ source, (Splitter.ofDelimiters settings.delimiters).split source =
        (Splitter.ofDelimiters [v]).split source) ∧
      (∀ source, IsText source →
        (run ["split", source] env₁ file₁).ShowsMore (remark (isColored loaded₁) settings.level)
          (run ["split", "--delimiter=" ++ v, source] env₂ file₂) ∧
        ∀ w given₁ given₂, (run ["split", source] env₁ file₁).stderr w given₁ =
          (run ["split", "--delimiter=" ++ v, source] env₂ file₂).stderr w given₂) ∧
      (∀ source,
        (run ["split", "--", source] env₁ file₁).ShowsMore (remark (isColored loaded₁) settings.level)
          (run ["split", "--delimiter=" ++ v, "--", source] env₂ file₂) ∧
        ∀ w given₁ given₂, (run ["split", "--", source] env₁ file₁).stderr w given₁ =
          (run ["split", "--delimiter=" ++ v, "--", source] env₂ file₂).stderr w given₂) ∧
      (∀ source, ¬ IsText source →
        (run ["split", source] env₁ file₁).ShowsMore []
          (run ["split", "--delimiter=" ++ v, source] env₂ file₂)) ∧
      (∃ c, (chooseSplitter settings []).value.isSeparator c = true) ∧
      ∀ c, (chooseSplitter settings [""]).value.isSeparator c = false := by
  have hdelimiters : settings.delimiters = characters v := hv.delimiters_of_read hread
  have hsplitter : Splitter.ofDelimiters settings.delimiters = Splitter.ofDelimiters [v] := by
    rw [hdelimiters, ofDelimiters_characters]
  simp only [run_of_loaded hload₁, run_of_loaded hload₂]
  refine ⟨⟨?_, ?_⟩, ?_, ?_, ?_, ?_, ?_, ?_⟩
  · intro d hd
    rw [hdelimiters] at hd
    exact length_of_mem_characters hd
  · rw [hdelimiters, join_characters]
  · intro source
    rw [hsplitter]
  · intro source htext
    have hsplit := Request.ofArguments_split_of_isText htext
    have hshows := showsMore_of_split hread hagree hv hsplit
    exact ⟨hshows, hshows.stderr_eq (result_runIn_ne_usage hsplit)⟩
  · intro source
    have hsplit := Request.ofArguments_split_behind source
    have hshows := showsMore_of_split hread hagree hv hsplit
    exact ⟨hshows, hshows.stderr_eq (result_runIn_ne_usage hsplit)⟩
  · intro source hno
    have hnone : ∀ c, Request.ofArguments ["split", source] ≠ .ok (.command c) := by
      intro c hc
      exact hno (isText_of_ofArguments_split hc)
    have hsame : runIn loaded₂ ["split", "--delimiter=" ++ v, source] = runIn loaded₁ ["split", source] :=
      runIn_of_no_command hread hagree hnone
    rw [hsame]
    exact Outcome.ShowsMore.refl _
  · rw [chooseSplitter_eq]
    show ∃ c, (Splitter.ofDelimiters settings.delimiters).isSeparator c = true
    rw [hsplitter]
    exact exists_isSeparator hv.ne_empty
  · intro c
    rfl

/-- An environment with delimiters. -/
def withDelimiters : Environment :=
  .ofList [(Settings.delimitersVariable, ",;"), (Settings.levelVariable, "trace"), (noColorVariable, "1")]

/-- The same environment without them. -/
def withoutDelimiters : Environment :=
  .ofList [(Settings.levelVariable, "trace"), (noColorVariable, "1")]

theorem run_split_configured_trace :
    Settings.read withDelimiters = .ok { level := .trace, delimiters := [",", ";"] } ∧
      withDelimiters.AgreeBut Settings.delimitersVariable withoutDelimiters ∧
      StandsFor (withDelimiters Settings.delimitersVariable) ",;" ∧
      (run ["split", "a,b; c"] withDelimiters none).ShowsMore
        ["DEBUG sigsplit: No delimiters given, using configured defaults"]
        (run ["split", "--delimiter=,;", "a,b; c"] withoutDelimiters none) := by
  have hread : Settings.read withDelimiters = .ok { level := .trace, delimiters := [",", ";"] } := rfl
  have hagree : withDelimiters.AgreeBut Settings.delimitersVariable withoutDelimiters :=
    fun other hother => (Environment.agreeBut_ofList_cons _ _ _ other hother).symm
  have hv : StandsFor (withDelimiters Settings.delimitersVariable) ",;" := .given (by decide)
  have htext : IsText "a,b; c" := isText_of_head? (by decide)
  have hrun := @run_split_configured _ _ withDelimiters withoutDelimiters _ _ none none rfl rfl hread
    hagree hv
  have hremark : remark (isColored withDelimiters) .trace =
      ["DEBUG sigsplit: No delimiters given, using configured defaults"] := by decide
  exact ⟨hread, hagree, hv, hremark ▸ (hrun.2.2.1 _ htext).1⟩

end CommandLine

end MethodSig
