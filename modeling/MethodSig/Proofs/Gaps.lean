import MethodSig.Proofs.Ending
import MethodSig.Proofs.FileText

/-!
# `Proofs.Gaps` — a file of variables fills gaps and nothing else

A file adds entries to an environment, and an entry counts only for a variable that has no value: neither
in the environment nor from an entry before it. That is an environment of its own, in which the first
entry of each missing variable is looked up (`Environment.extendedBy`), and a run with the file is the run
without it in that environment (`run_fills_gaps`). It breaks off if one of these first entries is none
that a variable can have.

This holds of every file. In a file with references the entries depend on the environment, as each is read
in what the entries before it have left (`entries`); in one of plain and single-quoted values they are
what is written. A line that cannot be read ends the file, so a value that opens quotes without
closing them takes the lines behind it with it.
-/

namespace MethodSig

variable {env env₁ env₂ : Environment} {name value : String} {added : List (String × String)}

/-! ## Environments with entries added -/

namespace Environment

/-- `env`, with the value of its first entry for each variable that has none. -/
def extendedBy (env : Environment) (added : List (String × String)) : Environment := fun name =>
  (env name).or (added.lookup name)

theorem extendedBy_nil (env : Environment) : env.extendedBy [] = env :=
  funext fun _ => Option.or_none

/-- The first entry fills its gap, the others come after it. -/
theorem extendedBy_cons (env : Environment) (name value : String) (added : List (String × String)) :
    env.extendedBy ((name, value) :: added) = (env.setIfAbsent name value).extendedBy added := by
  funext other
  unfold extendedBy
  by_cases hother : other = name
  · subst hother
    rw [setIfAbsent_self, List.lookup_cons_self, Option.or_assoc, Option.some_or]
  · rw [setIfAbsent_of_ne env value hother, List.lookup_cons, beq_eq_false_iff_ne.mpr hother]

/-- What is set stays as it is. -/
theorem extendedBy_of_eq_some (h : env name = some value) (added : List (String × String)) :
    env.extendedBy added name = some value := by
  rw [extendedBy, h, Option.some_or]

/-- What is set or has an entry is set. -/
theorem extendedBy_ne_none (h : name ∈ added.map Prod.fst) : env.extendedBy added name ≠ none := by
  intro hnone
  have hlookup : added.lookup name = none := (Option.or_eq_none_iff.mp hnone).2
  obtain ⟨entry, hentry, rfl⟩ := List.mem_map.mp h
  have hne := List.lookup_eq_none_iff.mp hlookup entry hentry
  simp at hne

/-- Entries for variables that are set do nothing. -/
theorem extendedBy_of_ne_none (h : ∀ name ∈ added.map Prod.fst, env name ≠ none) :
    env.extendedBy added = env := by
  funext name
  by_cases hname : name ∈ added.map Prod.fst
  · obtain ⟨value, hvalue⟩ := Option.ne_none_iff_exists'.mp (h name hname)
    rw [extendedBy_of_eq_some hvalue, hvalue]
  · rw [extendedBy, lookup_eq_none_of_notMem hname, Option.or_none]

end Environment

/-! ## Entries of a file -/

namespace DotEnv

variable {file : String} {made before after : List Assignment} {a : Assignment} {lines : List FileLine}

/-- **To make assignments is to add their entries.** -/
theorem foldlM_perform_of_admits (h : ∀ name, env.Admits (entriesFrom env made) name) :
    made.foldlM Assignment.perform env = .ok (env.extendedBy (entriesFrom env made)) := by
  induction made generalizing env with
  | nil =>
      rw [entriesFrom, Environment.extendedBy_nil]
      rfl
  | cons a rest ih =>
      have hcons := fun name => Environment.admits_cons_iff.mp (h name)
      rw [List.foldlM_cons, Assignment.perform_eq_ok ((hcons a.key).1 rfl), entriesFrom,
        Environment.extendedBy_cons]
      exact ih fun name => (hcons name).2

/-- What is filled is extended by the entries. -/
theorem eq_extendedBy_of_foldlM (h : made.foldlM Assignment.perform env = .ok loaded) :
    loaded = env.extendedBy (entriesFrom env made) := by
  by_cases hadmits : ∀ name, env.Admits (entriesFrom env made) name
  · rw [foldlM_perform_of_admits hadmits] at h
    exact (Except.ok.inj h).symm
  · obtain ⟨e, he⟩ := exists_foldlM_eq_error_iff.mpr (not_forall.mp hadmits)
    rw [he] at h
    cases h

/-- Characters stand for themselves in every environment. -/
theorem expand_map_char (env : Environment) (s : List Char) : expand env (s.map .char) = s := by
  induction s with
  | nil => rfl
  | cons c s ih => rw [List.map_cons, expand_char, ih]

/-- Lines without references have the same entries in every environment. -/
theorem entriesFrom_filterMap (env : Environment) (lines : List FileLine) :
    entriesFrom env (lines.filterMap FileLine.assignment?) = lines.filterMap FileLine.entry? := by
  induction lines generalizing env with
  | nil => rfl
  | cons line rest ih =>
      cases line with
      | blank white => exact ih env
      | comment front text => exact ih env
      | assignment front key value form back =>
          show (key, String.ofList (expand env (value.toList.map .char))) :: entriesFrom _ _ = _
          rw [ih, expand_map_char, String.ofList_toList]
          rfl

/-- **The entries of a file are those that are written in it.** -/
theorem entries_fileText (h : MakeUpFile lines) (env : Environment) :
    entries env (fileText lines) = lines.filterMap FileLine.entry? := by
  rw [entries, assignments_fileText h, entriesFrom_filterMap]

/-- **A later assignment** to the same variable does nothing. -/
theorem foldlM_perform_of_mem (h : a.key ∈ before.map Assignment.key) (env : Environment) :
    (before ++ a :: after).foldlM Assignment.perform env =
      (before ++ after).foldlM Assignment.perform env := by
  rw [List.foldlM_append, List.foldlM_append]
  cases hbefore : before.foldlM Assignment.perform env with
  | error e => rfl
  | ok filled =>
      have hset : filled a.key ≠ none := by
        rw [eq_extendedBy_of_foldlM hbefore]
        apply Environment.extendedBy_ne_none
        rwa [map_fst_entriesFrom]
      show (a :: after).foldlM Assignment.perform filled = after.foldlM Assignment.perform filled
      rw [List.foldlM_cons, Assignment.perform_eq_ok fun hunset => absurd hunset hset,
        Environment.setIfAbsent_of_ne_none hset]
      rfl

end DotEnv

/-! ## Runs -/

namespace CommandLine

variable {loaded : Environment} {file : Option String}

/-- What a run comes to depends on the variables of the settings; how it is shown is up to the others. -/
theorem runIn_congr (h : ∀ name ∈ Settings.names, env₁ name = env₂ name) (arguments : List String) :
    runIn env₁ arguments = (runIn env₂ arguments).withOutside (outsideOf env₁) := by
  have hread : Settings.read env₁ = Settings.read env₂ := by
    rw [Settings.read_eq, Settings.read_eq, h _ (by simp [Settings.names]), h _ (by simp [Settings.names]),
      h _ (by simp [Settings.names])]
  rw [runIn, runIn, hread]
  cases Settings.read env₂ with
  | error e => rfl
  | ok settings =>
      cases Request.ofArguments arguments with
      | error e => rfl
      | ok request => cases request <;> rfl

/-- With the same colours, an outcome prints the same. -/
theorem Outcome.stdout_withOutside {o : Outcome} {outside : Environment}
    (h : isColored outside = isColored o.outside) : (o.withOutside outside).stdout = o.stdout := by
  rw [stdout_eq, stdout_eq, lines, lines, withOutside, h]
  rfl

theorem loadsAlike_of_relevantVariables (h : env₁.AgreeOn (· ∈ relevantVariables file) env₂) :
    DotEnv.LoadsAlike (· ∈ relevantVariables file) (withFile env₁ file) (withFile env₂ file) := by
  cases file with
  | none => exact .ok h
  | some text =>
      refine DotEnv.loadsAlike_fill_of_mentioned h fun name hname => ?_
      exact List.mem_append_right _ hname

/-- **A run depends on the variables that are relevant to it**: on those of the settings, the one about
    colours, and those that the file sets or refers to. -/
theorem run_of_relevantVariables (h : env₁.AgreeOn (· ∈ relevantVariables file) env₂)
    (arguments : List String) :
    (run arguments env₁ file).exit = (run arguments env₂ file).exit ∧
      (run arguments env₁ file).stdout = (run arguments env₂ file).stdout ∧
      (run arguments env₁ file).result = (run arguments env₂ file).result := by
  have hload := loadsAlike_of_relevantVariables h
  generalize h₁ : withFile env₁ file = load₁ at hload
  generalize h₂ : withFile env₂ file = load₂ at hload
  cases hload with
  | @ok loaded₁ loaded₂ hagree =>
      have hnames : ∀ name ∈ Settings.names, loaded₁ name = loaded₂ name := fun name hname =>
        hagree name (List.mem_append_left _ (List.mem_cons_of_mem _ hname))
      have hcolors : isColored loaded₁ = isColored loaded₂ := by
        rw [isColored, isColored, hagree noColorVariable (List.mem_append_left _ List.mem_cons_self)]
      rw [run_of_loaded h₁, run_of_loaded h₂, runIn_congr hnames]
      refine ⟨rfl, Outcome.stdout_withOutside ?_, rfl⟩
      rw [outside_runIn, isColored_outsideOf, isColored_outsideOf, hcolors]
  | @error filled₁ filled₂ hagree key value =>
      rw [run_of_unstorable h₁, run_of_unstorable h₂]
      exact ⟨rfl, rfl, rfl⟩

theorem withFile_eq_ok_iff {text : String} : withFile env (some text) = .ok loaded ↔
    (∀ name, env.Admits (DotEnv.entries env text) name) ∧
      loaded = env.extendedBy (DotEnv.entries env text) := by
  constructor
  · intro h
    refine ⟨?_, DotEnv.eq_extendedBy_of_foldlM h⟩
    by_contra hadmits
    obtain ⟨e, he⟩ := DotEnv.exists_fill_eq_error_iff.mpr (not_forall.mp hadmits)
    have hfill : DotEnv.fill env text = .ok loaded := h
    rw [he] at hfill
    cases hfill
  · rintro ⟨hadmits, rfl⟩
    exact DotEnv.foldlM_perform_of_admits hadmits

/-- What is set stays as it is. -/
theorem eq_some_of_withFile {text : String} (hload : withFile env (some text) = .ok loaded)
    (h : env name = some value) : loaded name = some value := by
  rw [(withFile_eq_ok_iff.mp hload).2]
  exact Environment.extendedBy_of_eq_some h _

/-- Where the variables of the settings are set, a file changes at most how things are shown. -/
theorem run_of_names_set {text : String} (hload : withFile env (some text) = .ok loaded)
    (hset : ∀ name ∈ Settings.names, env name ≠ none) (arguments : List String) :
    run arguments env (some text) = (run arguments env none).withOutside (outsideOf loaded) := by
  rw [run_of_loaded hload]
  apply runIn_congr
  intro name hname
  obtain ⟨value, hvalue⟩ := Option.ne_none_iff_exists'.mp (hset name hname)
  rw [eq_some_of_withFile hload hvalue, hvalue]

/-- **A file of variables fills gaps and nothing else.** A run with any file is the run without it in the
    environment that has, in addition, the first entry of the file for each variable without a value,
    unless such an entry is none that a variable can have; then the run breaks off. Where the file is made
    of blank lines, comments and assignments of plain or single-quoted values, its entries are those that
    are written in it. So a variable that is set, be it to the empty text, keeps its value; where the three
    variables of the settings are set, the file makes no difference to what the run comes to, nor to how it
    is shown if it sets no other variable that libraries look at; and an assignment to a variable that has
    been assigned to before makes none either. -/
theorem run_fills_gaps (arguments : List String) (env : Environment) :
    (∀ file, (∀ name, env.Admits (DotEnv.entries env file) name) →
      run arguments env (some file) = run arguments (env.extendedBy (DotEnv.entries env file)) none) ∧
      (∀ file, (∃ name, ¬ env.Admits (DotEnv.entries env file) name) →
        (run arguments env (some file)).exit = 101 ∧ (run arguments env (some file)).stdout = "") ∧
      (∀ lines, DotEnv.MakeUpFile lines →
        DotEnv.entries env (DotEnv.fileText lines) = lines.filterMap DotEnv.FileLine.entry? ∧
          ((∀ name, env.Admits (lines.filterMap DotEnv.FileLine.entry?) name) →
            run arguments env (some (DotEnv.fileText lines)) =
              run arguments (env.extendedBy (lines.filterMap DotEnv.FileLine.entry?)) none)) ∧
      (∀ file loaded name value, withFile env (some file) = .ok loaded → env name = some value →
        loaded name = some value) ∧
      (∀ file loaded, withFile env (some file) = .ok loaded → (∀ name ∈ Settings.names, env name ≠ none) →
        run arguments env (some file) = (run arguments env none).withOutside (outsideOf loaded) ∧
          (outsideOf loaded = outsideOf env → run arguments env (some file) = run arguments env none)) ∧
      ∀ file₁ file₂ before a after, DotEnv.assignments file₁ = before ++ a :: after →
        DotEnv.assignments file₂ = before ++ after → a.key ∈ before.map DotEnv.Assignment.key →
        run arguments env (some file₁) = run arguments env (some file₂) := by
  have hgeneral : ∀ file, (∀ name, env.Admits (DotEnv.entries env file) name) →
      run arguments env (some file) =
        run arguments (env.extendedBy (DotEnv.entries env file)) none := fun file hadmits =>
    run_of_loaded (withFile_eq_ok_iff.mpr ⟨hadmits, rfl⟩) arguments
  refine ⟨hgeneral, ?_, ?_, fun _ _ _ _ => eq_some_of_withFile, ?_, ?_⟩
  · intro file hadmits
    obtain ⟨e, he⟩ := DotEnv.exists_fill_eq_error_iff.mpr hadmits
    have hload : withFile env (some file) = .error e := he
    rw [run_of_unstorable hload]
    exact ⟨rfl, rfl⟩
  · intro lines hlines
    have hentries := DotEnv.entries_fileText hlines env
    refine ⟨hentries, ?_⟩
    rw [← hentries]
    exact hgeneral _
  · intro file loaded hload hset
    have hrun := run_of_names_set hload hset arguments
    refine ⟨hrun, fun houtside => ?_⟩
    rw [hrun, houtside, ← outside_runIn env arguments]
    rfl
  · intro file₁ file₂ before a after h₁ h₂ hmem
    have hload : withFile env (some file₁) = withFile env (some file₂) := by
      show DotEnv.fill env file₁ = DotEnv.fill env file₂
      rw [DotEnv.fill, DotEnv.fill, h₁, h₂, DotEnv.foldlM_perform_of_mem hmem]
    rw [run, run, hload]

/-- A file with a comment, a plain value, a quoted one and an empty line. -/
def gapsLines : List DotEnv.FileLine :=
  [.comment [] " defaults".toList, .assignment [] Settings.outputVariable "table" .plain [],
    .assignment [] Settings.delimitersVariable "; \\\\" .quoted [' '], .blank []]

/-- An environment with an output format that is empty. -/
def gapsEnvironment : Environment := .ofList [(Settings.outputVariable, "")]

/-- An environment with all settings. -/
def fullEnvironment : Environment :=
  .ofList [(Settings.levelVariable, "trace"), (Settings.outputVariable, ""),
    (Settings.delimitersVariable, "")]

/-- The file goes on with a second assignment, the output format is set to the empty text, or all variables
    are set. -/
theorem run_fills_gaps_quoted :
    DotEnv.MakeUpFile gapsLines ∧
      DotEnv.fileText gapsLines =
        "# defaults\nSIGSPLIT_OUTPUT=table\nSIGSPLIT_DELIMITERS=\x27; \\\\\x27 \n" ∧
      (∀ name, gapsEnvironment.Admits (gapsLines.filterMap DotEnv.FileLine.entry?) name) ∧
      run ["split", "a; b,c"] gapsEnvironment (some (DotEnv.fileText gapsLines)) =
        run ["split", "a; b,c"] (gapsEnvironment.extendedBy
          [(Settings.outputVariable, "table"), (Settings.delimitersVariable, "; \\\\")]) none ∧
      (∃ loaded, withFile gapsEnvironment (some (DotEnv.fileText gapsLines)) = .ok loaded ∧
        loaded Settings.outputVariable = some "") ∧
      run ["split", "a; b,c"] fullEnvironment (some (DotEnv.fileText gapsLines)) =
        run ["split", "a; b,c"] fullEnvironment none ∧
      run ["split", "a; b,c"] gapsEnvironment (some (DotEnv.fileText (gapsLines ++
          [.assignment [] Settings.delimitersVariable "," .plain []]))) =
        run ["split", "a; b,c"] gapsEnvironment (some (DotEnv.fileText gapsLines)) ∧
      (run ["split", "a; b,c"] gapsEnvironment (some "A=\x00")).exit = 101 := by
  have hlines : DotEnv.MakeUpFile gapsLines := ⟨by decide, by decide⟩
  have hmore : DotEnv.MakeUpFile (gapsLines ++
      [.assignment [] Settings.delimitersVariable "," .plain []]) := ⟨by decide, by decide⟩
  have hadmits : ∀ (env : Environment) name,
      env.Admits (gapsLines.filterMap DotEnv.FileLine.entry?) name :=
    Environment.admits_of_isStorable (by decide)
  have hload : ∀ env, withFile env (some (DotEnv.fileText gapsLines)) =
      .ok (env.extendedBy (DotEnv.entries env (DotEnv.fileText gapsLines))) := by
    intro env
    refine withFile_eq_ok_iff.mpr ⟨?_, rfl⟩
    rw [DotEnv.entries_fileText hlines]
    exact hadmits env
  obtain ⟨-, hbreaks, hwritten, hkept, -, hlater⟩ := run_fills_gaps ["split", "a; b,c"] gapsEnvironment
  have hall := (run_fills_gaps ["split", "a; b,c"] fullEnvironment).2.2.2.2.1 _ _ (hload _)
    (by decide)
  -- the file sets variables of the settings alone
  have houtside : outsideOf (fullEnvironment.extendedBy
      (DotEnv.entries fullEnvironment (DotEnv.fileText gapsLines))) = outsideOf fullEnvironment := by
    rw [DotEnv.entries_fileText hlines, Environment.extendedBy_of_ne_none (by decide)]
  exact ⟨hlines, by decide +kernel, hadmits _, (hwritten _ hlines).2 (hadmits _),
    ⟨_, hload _, hkept _ _ _ _ (hload _) rfl⟩, hall.2 houtside,
    hlater _ _ (gapsLines.filterMap DotEnv.FileLine.assignment?) ⟨Settings.delimitersVariable, [.char ',']⟩
      [] (DotEnv.assignments_fileText hmore) (DotEnv.assignments_fileText hlines) (by decide),
    (hbreaks "A=\x00" ⟨"A", by decide +kernel⟩).1⟩

/-- A backslash in front of the closing quote takes the line out of the file, and a blank in a plain value
    all lines behind it too; a value with the character NUL is not filled in; and where all settings are
    given, a file can still take the colours from the log. -/
theorem run_differs_from_extended :
    DotEnv.fileText [.assignment [] Settings.delimitersVariable "\\" .quoted [], .blank []] =
        "SIGSPLIT_DELIMITERS=\x27\\\x27\n" ∧
      (run ["split", "a\\b c"] (Environment.ofList [])
          (some "SIGSPLIT_DELIMITERS=\x27\\\x27\n")).stdout ≠
        (run ["split", "a\\b c"]
          ((Environment.ofList []).extendedBy [(Settings.delimitersVariable, "\\")]) none).stdout ∧
      DotEnv.fileText [.assignment [] "A" "1 2" .plain [],
          .assignment [] Settings.outputVariable "table" .plain [], .blank []] =
        "A=1 2\nSIGSPLIT_OUTPUT=table\n" ∧
      (run ["split", "a b"] (Environment.ofList []) (some "A=1 2\nSIGSPLIT_OUTPUT=table\n")).stdout ≠
        (run ["split", "a b"] ((Environment.ofList []).extendedBy
          [("A", "1 2"), (Settings.outputVariable, "table")]) none).stdout ∧
      DotEnv.fileText [.assignment [] "A" "\x00" .plain [], .blank []] = "A=\x00\n" ∧
      (run ["split", "a b"] (Environment.ofList []) (some "A=\x00\n")).exit ≠
        (run ["split", "a b"] ((Environment.ofList []).extendedBy [("A", "\x00")]) none).exit ∧
      (run ["split", "a b"] fullEnvironment (some "NO_COLOR=1\n")).stdout ≠
        (run ["split", "a b"] fullEnvironment none).stdout :=
  ⟨by decide +kernel, by decide +kernel, by decide +kernel, by decide +kernel, by decide +kernel,
    by decide +kernel, by decide +kernel⟩

end CommandLine

end MethodSig
