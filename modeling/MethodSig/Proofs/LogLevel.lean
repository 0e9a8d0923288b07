import MethodSig.CommandLine.Outcome
import MethodSig.Proofs.Assignments
import MethodSig.Proofs.LogLines
import Mathlib.Data.List.Basic

/-!
# `Proofs.LogLevel` — what the level of the log decides

The level decides which of the recorded events a log shows, and nothing else. Every run is the run at
the level `TRACE` with some of its events left out (`runIn_eq_shownAt`); so two environments that differ
in the level alone have the same run at `TRACE`, and therefore the same result, and of the two logs the
less verbose one is part of the other.

A file of variables can undo this. It may refer to the level in the value of another variable; and it may
have a value for the level that no variable can have, over which a run breaks off unless the level is set.
A file that does neither loads alike in both environments (`loadsAlike_withFile`), so the level is without
influence on what a run comes to.
-/

namespace MethodSig

/-! ## Levels and events -/

namespace Level

/-- What one level shows, a more verbose one shows too. -/
theorem shows_mono {l l' m : Level} (h : l.verbosity ≤ l'.verbosity) (hm : l.shows m = true) :
    l'.shows m = true := by
  simp only [shows, decide_eq_true_eq] at hm ⊢
  exact Nat.le_trans hm h

/-- Only two values make a log that shows anything. -/
theorem ofSetting_shows_eq_false {setting : Option String}
    (h : ∀ value ∈ setting, Text.normalized value ≠ "debug" ∧ Text.normalized value ≠ "trace") :
    (ofSetting setting).shows .debug = false ∧ (ofSetting setting).shows .trace = false := by
  cases setting with
  | none => exact ⟨rfl, rfl⟩
  | some value =>
      obtain ⟨hdebug, htrace⟩ := h value rfl
      simp only [ofSetting, if_neg hdebug, if_neg htrace]
      split_ifs <;> exact ⟨rfl, rfl⟩

end Level

namespace Event

theorem shownAt_sublist {l l' : Level} (h : l.verbosity ≤ l'.verbosity) (events : List Event) :
    (shownAt l events).Sublist (shownAt l' events) :=
  List.monotone_filter_right events fun _ => Level.shows_mono h

theorem level_eq (e : Event) : e.level = .debug ∨ e.level = .trace := by
  cases e <;> simp [level]

/-- At `TRACE` the log shows everything. -/
theorem shownAt_trace (events : List Event) : shownAt .trace events = events := by
  refine List.filter_eq_self.mpr fun e _ => ?_
  rcases level_eq e with h | h <;> rw [h] <;> rfl

theorem shownAt_eq_nil {l : Level} (h : l.shows .debug = false ∧ l.shows .trace = false)
    (events : List Event) : shownAt l events = [] := by
  refine List.filter_eq_nil_iff.mpr fun e _ => ?_
  rcases level_eq e with he | he <;> rw [he]
  · simp [h.1]
  · simp [h.2]

end Event

/-! ## Settings -/

/-- **Each setting is that of its own variable.** Only the output format can be wrong. -/
theorem Settings.read_eq (env : Environment) :
    read env = (OutputFormat.ofSetting (env outputVariable)).map fun output =>
      { level := Level.ofSetting (env levelVariable)
        output
        delimiters := delimitersOfSetting (env delimitersVariable) } := by
  cases h : OutputFormat.ofSetting (env outputVariable) <;> simp [read, readAsking, ask, h, Except.map]

/-- Settings that are right have a format, and else what the variables mean. -/
theorem Settings.read_eq_ok_iff {env : Environment} {settings : Settings} :
    read env = .ok settings ↔
      OutputFormat.ofSetting (env outputVariable) = .ok settings.output ∧
        settings.level = Level.ofSetting (env levelVariable) ∧
        settings.delimiters = delimitersOfSetting (env delimitersVariable) := by
  rw [read_eq]
  cases OutputFormat.ofSetting (env outputVariable) with
  | error e => simp [Except.map]
  | ok output =>
      obtain ⟨level, format, delimiters⟩ := settings
      simp [Except.map, eq_comm, and_left_comm]

namespace CommandLine

/-- The environment with the level set to `TRACE`. -/
def atTrace (env : Environment) : Environment := fun name =>
  if name = Settings.levelVariable then some "trace" else env name

theorem atTrace_eq_of_agreeBut {env₁ env₂ : Environment}
    (h : env₁.AgreeBut Settings.levelVariable env₂) : atTrace env₁ = atTrace env₂ := by
  funext name
  unfold atTrace
  by_cases hname : name = Settings.levelVariable
  · rw [if_pos hname, if_pos hname]
  · rw [if_neg hname, if_neg hname, h name hname]

/-- What is outside of the settings does not depend on their variables. -/
theorem outsideOf_congr {env₁ env₂ : Environment}
    (h : ∀ name, name ∉ Settings.names → env₁ name = env₂ name) : outsideOf env₁ = outsideOf env₂ := by
  funext name
  unfold outsideOf
  by_cases hname : name ∈ Settings.names
  · rw [if_pos hname, if_pos hname]
  · rw [if_neg hname, if_neg hname, h name hname]

theorem outsideOf_of_agreeBut {env₁ env₂ : Environment} {name : String} (hname : name ∈ Settings.names)
    (h : env₁.AgreeBut name env₂) : outsideOf env₁ = outsideOf env₂ := by
  refine outsideOf_congr fun other hother => h other ?_
  rintro rfl
  exact hother hname

/-- The colours of the log are no matter of the settings. -/
theorem isColored_outsideOf (env : Environment) : isColored (outsideOf env) = isColored env := by
  have hname : noColorVariable ∉ Settings.names := by decide
  rw [isColored, outsideOf, if_neg hname]
  rfl

theorem outsideOf_atTrace (env : Environment) : outsideOf (atTrace env) = outsideOf env := by
  refine outsideOf_congr fun name hname => if_neg ?_
  rintro rfl
  exact hname (by decide)

theorem read_atTrace (env : Environment) :
    Settings.read (atTrace env) = (Settings.read env).map fun s => { s with level := .trace } := by
  have hlevel : Level.ofSetting (some "trace") = .trace := by decide +kernel
  have houtput : Settings.outputVariable ≠ Settings.levelVariable := by decide
  have hdelimiters : Settings.delimitersVariable ≠ Settings.levelVariable := by decide
  rw [Settings.read_eq, Settings.read_eq]
  simp only [atTrace, if_neg houtput, if_neg hdelimiters, if_true, hlevel]
  cases OutputFormat.ofSetting (env Settings.outputVariable) <;> rfl

/-! ## Runs -/

/-- A command records and prints the same at every level. -/
theorem Command.run_level (settings : Settings) (level : Level) (c : Command) :
    c.run { settings with level } = c.run settings := by
  cases c <;> rfl

/-- The outcome with the events alone that a log at `level` shows. -/
def Outcome.shownAt (level : Level) (o : Outcome) : Outcome :=
  { o with events := Event.shownAt level o.events }

/-- The outcome shown as other variables ask for. -/
def Outcome.withOutside (outside : Environment) (o : Outcome) : Outcome := { o with outside }

/-- **Every run is the run at `TRACE`** with some events left out. -/
theorem runIn_eq_shownAt (env : Environment) (arguments : List String) :
    runIn env arguments =
      (runIn (atTrace env) arguments).shownAt (Level.ofSetting (env Settings.levelVariable)) := by
  unfold runIn
  rw [read_atTrace, outsideOf_atTrace]
  cases hread : Settings.read env with
  | error e => rfl
  | ok settings =>
      have hlevel : settings.level = Level.ofSetting (env Settings.levelVariable) :=
        (Settings.read_eq_ok_iff.mp hread).2.1
      simp only [Except.map]
      cases Request.ofArguments arguments with
      | error e => rfl
      | ok request =>
          cases request with
          | help topic => rfl
          | command c =>
              simp only [Request.run, Command.run_level, Outcome.shownAt, Event.shownAt_trace, hlevel]

/-- The splitter is chosen with at most a remark on the defaults. -/
theorem mem_trace_chooseSplitter {settings : Settings} {delimiters : List String} {e : Event}
    (he : e ∈ (chooseSplitter settings delimiters).trace) : e = .defaultDelimiters := by
  unfold chooseSplitter at he
  split at he
  · simpa using he
  · exact absurd he (by simp)

/-- What a command records has happened. -/
theorem Command.occurs_of_mem_trace {settings : Settings} {c : Command} :
    ∀ e ∈ (c.run settings).trace, e.Occurs := by
  intro e he
  cases c with
  | signature output text =>
      cases hparse : Signature.parse text with
      | ok found =>
          simp only [Command.run, Signature.parseLogged, hparse, Traced.trace_bind,
            Traced.trace_record, Traced.trace_pure, List.append_nil, List.mem_singleton] at he
          rw [he]
          exact ⟨text, hparse⟩
      | error why =>
          simp only [Command.run, Signature.parseLogged, hparse, Traced.trace_bind,
            Traced.trace_record, Traced.trace_pure, List.append_nil, List.mem_singleton] at he
          rw [he]
          exact trivial
  | split output delimiters source =>
      simp only [Command.run, Splitter.splitLogged, Traced.trace_bind, Traced.trace_record,
        Traced.trace_pure, List.append_nil, List.mem_append, List.mem_singleton] at he
      rcases he with he | he
      · rw [mem_trace_chooseSplitter he]
        exact trivial
      · rw [he]
        exact trivial

theorem occurs_of_mem_events {env : Environment} {arguments : List String} :
    ∀ e ∈ (runIn env arguments).events, e.Occurs := by
  intro e he
  unfold runIn at he
  split at he
  · exact absurd he (by simp)
  · split at he
    · exact absurd he (by simp)
    · rename_i settings _ request _
      cases request with
      | help topic => exact absurd he (by simp [Request.run])
      | command c => exact Command.occurs_of_mem_trace e (List.mem_filter.mp he).1

/-! ## What is printed -/

namespace Outcome

/-- What is printed behind the log. -/
def printed (o : Outcome) : String :=
  match o.result with
  | .ok text => text
  | .error _ => ""

theorem stdout_eq (o : Outcome) : o.stdout = unlines o.lines ++ o.printed := by
  rw [stdout, printed, log]
  cases o.result with
  | ok text => rfl
  | error failure => exact String.append_empty.symm

end Outcome

/-! ## The file of variables -/

variable {arguments : List String} {env env₁ env₂ loaded : Environment} {file : Option String}
  {e : DotEnv.Unstorable}

theorem run_of_loaded (h : withFile env file = .ok loaded) (arguments : List String) :
    run arguments env file = runIn loaded arguments := by
  rw [run, h]

/-- What a run comes to that breaks off over the file. It does not depend on the arguments. -/
def broken (e : DotEnv.Unstorable) : Outcome := ⟨outsideOf e.env, [], .error (.unstorable e.key e.value)⟩

theorem run_of_unstorable (h : withFile env file = .error e) (arguments : List String) :
    run arguments env file = broken e := by
  rw [run, h]
  rfl

/-- Arguments that come to the same in every environment do so with every file. -/
theorem run_congr {arguments₁ arguments₂ : List String}
    (h : ∀ env, runIn env arguments₁ = runIn env arguments₂) (env : Environment) (file : Option String) :
    run arguments₁ env file = run arguments₂ env file := by
  cases hload : withFile env file with
  | error e => rw [run_of_unstorable hload, run_of_unstorable hload]
  | ok loaded => rw [run_of_loaded hload, run_of_loaded hload, h]

theorem loadsAlike_withFile {name : String} (henv : env₁.AgreeBut name env₂)
    (hfile : ∀ text ∈ file, DotEnv.Confines env₁ text name)
    (hadmits : ∀ text ∈ file, ∀ env ∈ [env₁, env₂], env.Admits (DotEnv.entries env text) name) :
    DotEnv.LoadsAlike (· ≠ name) (withFile env₁ file) (withFile env₂ file) := by
  cases file with
  | none => exact .ok henv
  | some text =>
      exact DotEnv.loadsAlike_fill henv (hfile text rfl) (hadmits text rfl env₁ (by simp))
        (hadmits text rfl env₂ (by simp))

/-- The level of the log in a run, unless the file breaks off. -/
def logLevel (env : Environment) (file : Option String) : Option Level :=
  (withFile env file).toOption.map fun loaded => Level.ofSetting (loaded Settings.levelVariable)

/-- The level is none of the two at which something is logged: the variable has another value, or none. -/
def IsQuiet (env : Environment) (file : Option String) : Prop :=
  ∀ loaded ∈ (withFile env file).toOption, ∀ value ∈ loaded Settings.levelVariable,
    Text.normalized value ≠ "debug" ∧ Text.normalized value ≠ "trace"

instance (env : Environment) (file : Option String) : Decidable (IsQuiet env file) :=
  inferInstanceAs (Decidable (∀ loaded ∈ (withFile env file).toOption,
    ∀ value ∈ loaded Settings.levelVariable,
      Text.normalized value ≠ "debug" ∧ Text.normalized value ≠ "trace"))

theorem occurs_of_mem_events_run : ∀ e ∈ (run arguments env file).events, e.Occurs := by
  intro e he
  cases hload : withFile env file with
  | error broken =>
      rw [run_of_unstorable hload] at he
      exact absurd he (by simp [CommandLine.broken])
  | ok loaded =>
      rw [run_of_loaded hload] at he
      exact occurs_of_mem_events e he

theorem oneLine_of_mem_lines : ∀ line ∈ (run arguments env file).lines, OneLine line := by
  intro line hline
  obtain ⟨e, he, rfl⟩ := List.mem_map.mp hline
  exact (occurs_of_mem_events_run e he).oneLine_line _

theorem lines_eq_nil_of_isQuiet (h : IsQuiet env file) : (run arguments env file).lines = [] := by
  cases hload : withFile env file with
  | error broken =>
      rw [run_of_unstorable hload]
      rfl
  | ok loaded =>
      rw [run_of_loaded hload, runIn_eq_shownAt]
      have hquiet := h loaded (by rw [hload]; rfl)
      have hnone := Event.shownAt_eq_nil (Level.ofSetting_shows_eq_false hquiet)
      simp only [Outcome.lines, Outcome.shownAt, hnone, List.map_nil]

/-- **Two runs are one run**, each with what its own level shows of it, if the environments differ in the
    level alone and the file carries it nowhere else. -/
theorem exists_run_eq_shownAt (henv : env₁.AgreeBut Settings.levelVariable env₂)
    (hfile : ∀ text ∈ file, DotEnv.Confines env₁ text Settings.levelVariable)
    (hlevel : ∀ text ∈ file, ∀ env ∈ [env₁, env₂],
      env.Admits (DotEnv.entries env text) Settings.levelVariable) (arguments : List String) :
    ∃ o l₁ l₂, run arguments env₁ file = Outcome.shownAt l₁ o ∧
      run arguments env₂ file = Outcome.shownAt l₂ o ∧
      (∀ l ∈ logLevel env₁ file, l = l₁) ∧ ∀ l ∈ logLevel env₂ file, l = l₂ := by
  have hload := loadsAlike_withFile henv hfile hlevel
  generalize h₁ : withFile env₁ file = load₁ at hload
  generalize h₂ : withFile env₂ file = load₂ at hload
  cases hload with
  | @ok loaded₁ loaded₂ hagree =>
      -- both are the run at `TRACE`
      refine ⟨runIn (atTrace loaded₂) arguments, Level.ofSetting (loaded₁ Settings.levelVariable),
        Level.ofSetting (loaded₂ Settings.levelVariable), ?_, ?_, ?_, ?_⟩
      · rw [run_of_loaded h₁, runIn_eq_shownAt, atTrace_eq_of_agreeBut hagree]
      · rw [run_of_loaded h₂, runIn_eq_shownAt]
      · rw [logLevel, h₁]
        rintro l ⟨⟩
        rfl
      · rw [logLevel, h₂]
        rintro l ⟨⟩
        rfl
  | @error filled₁ filled₂ hagree key value =>
      -- both break off over the same value
      refine ⟨broken ⟨filled₂, key, value⟩, .info, .info, ?_, ?_, ?_, ?_⟩
      · rw [run_of_unstorable h₁, broken, outsideOf_of_agreeBut (by decide) hagree]
        rfl
      · rw [run_of_unstorable h₂]
        rfl
      · rw [logLevel, h₁]
        rintro l ⟨⟩
      · rw [logLevel, h₂]
        rintro l ⟨⟩

/-- **The level has no influence on the result.** In two environments that differ in the level alone, a
    run has the same exit status and prints the same, on either stream, behind complete lines of the log;
    the less verbose log is part of the other, and a log is empty unless the level is `DEBUG` or `TRACE`.
    This holds with any file of variables that does not itself set another variable from the level and
    gives the level no value that a variable cannot have. -/
theorem run_independent_of_level (henv : env₁.AgreeBut Settings.levelVariable env₂)
    (hfile : ∀ text ∈ file, DotEnv.Confines env₁ text Settings.levelVariable)
    (hlevel : ∀ text ∈ file, ∀ env ∈ [env₁, env₂],
      env.Admits (DotEnv.entries env text) Settings.levelVariable) :
    (run arguments env₁ file).exit = (run arguments env₂ file).exit ∧
      (∀ w, (run arguments env₁ file).stderr w arguments = (run arguments env₂ file).stderr w arguments) ∧
      (∃ printed,
        (run arguments env₁ file).stdout = unlines (run arguments env₁ file).lines ++ printed ∧
        (run arguments env₂ file).stdout = unlines (run arguments env₂ file).lines ++ printed) ∧
      (∀ l₁ ∈ logLevel env₁ file, ∀ l₂ ∈ logLevel env₂ file, l₁.verbosity ≤ l₂.verbosity →
        (run arguments env₁ file).lines.Sublist (run arguments env₂ file).lines) ∧
      ∀ env ∈ [env₁, env₂],
        (∀ line ∈ (run arguments env file).lines, OneLine line) ∧
          (IsQuiet env file → (run arguments env file).lines = []) := by
  obtain ⟨o, l₁, l₂, h₁, h₂, hl₁, hl₂⟩ := exists_run_eq_shownAt henv hfile hlevel arguments
  refine ⟨?_, ?_, ⟨o.printed, ?_, ?_⟩, ?_, fun env _ => ⟨oneLine_of_mem_lines, lines_eq_nil_of_isQuiet⟩⟩
  · rw [h₁, h₂]
    rfl
  · intro w
    rw [h₁, h₂]
    rfl
  · rw [Outcome.stdout_eq, h₁]
    rfl
  · rw [Outcome.stdout_eq, h₂]
    rfl
  · intro m₁ hm₁ m₂ hm₂ hle
    rw [hl₁ m₁ hm₁, hl₂ m₂ hm₂] at hle
    rw [h₁, h₂]
    exact (Event.shownAt_sublist hle o.events).map _

/-- An environment without the level. -/
def withoutLevel : Environment := .ofList [("B", ";"), (noColorVariable, "1")]

/-- The same environment with the level. -/
def withLevel : Environment :=
  .ofList [(Settings.levelVariable, " Trace"), ("B", ";"), (noColorVariable, "1")]

/-- A file that makes delimiters from other variables and has a level of its own. -/
def levelFile : String := "A=,$B\nSIGSPLIT_DELIMITERS=$A\nSIGSPLIT_LOG_LEVEL=info"

theorem run_independent_of_level_trace :
    withoutLevel.AgreeBut Settings.levelVariable withLevel ∧
      DotEnv.Confines withoutLevel levelFile Settings.levelVariable ∧
      (∀ w, (run ["split", "x,y;z"] withoutLevel (some levelFile)).stderr w ["split", "x,y;z"] =
        (run ["split", "x,y;z"] withLevel (some levelFile)).stderr w ["split", "x,y;z"]) ∧
      (run ["split", "x,y;z"] withoutLevel (some levelFile)).lines = [] ∧
      (run ["split", "x,y;z"] withLevel (some levelFile)).lines =
        ["DEBUG sigsplit: No delimiters given, using configured defaults",
          "TRACE sigsplit::splitter: Split 5 char(s) into 3 token(s) using 2 separator(s)"] := by
  have henv : withoutLevel.AgreeBut Settings.levelVariable withLevel :=
    Environment.agreeBut_ofList_cons _ _ _
  have hfile : ∀ text ∈ some levelFile, DotEnv.Confines withoutLevel text Settings.levelVariable := by
    decide +kernel
  have hlevel : ∀ text ∈ some levelFile, ∀ env ∈ [withoutLevel, withLevel],
      env.Admits (DotEnv.entries env text) Settings.levelVariable := by decide +kernel
  have hquiet : IsQuiet withoutLevel (some levelFile) := by decide +kernel
  have hrun := @run_independent_of_level ["split", "x,y;z"] _ _ _ henv hfile hlevel
  exact ⟨henv, hfile _ rfl, hrun.2.1, (hrun.2.2.2.2 _ (by simp)).2 hquiet, by decide +kernel⟩

/-- Where the file makes the output format from the level, the level `DEBUG` makes a run fail; and where it
    has a value for the level that no variable can have, any level keeps a run from breaking off. -/
theorem run_dependent_on_level_through_file :
    Environment.AgreeBut Settings.levelVariable (Environment.ofList [])
        (Environment.ofList [(Settings.levelVariable, "debug")]) ∧
      (run ["split", "-d,", "a,b"] (Environment.ofList [])
        (some "SIGSPLIT_OUTPUT=$\x7bSIGSPLIT_LOG_LEVEL\x7d")).exit = 0 ∧
      (run ["split", "-d,", "a,b"] (Environment.ofList [(Settings.levelVariable, "debug")])
        (some "SIGSPLIT_OUTPUT=$\x7bSIGSPLIT_LOG_LEVEL\x7d")).exit = 1 ∧
      (run ["split", "-d,", "a,b"] (Environment.ofList []) (some "SIGSPLIT_LOG_LEVEL=\x00")).exit = 101 ∧
      (run ["split", "-d,", "a,b"] (Environment.ofList [(Settings.levelVariable, "debug")])
        (some "SIGSPLIT_LOG_LEVEL=\x00")).exit = 0 :=
  ⟨Environment.agreeBut_ofList_cons _ _ _, by decide +kernel, by decide +kernel, by decide +kernel,
    by decide +kernel⟩

end CommandLine

end MethodSig
