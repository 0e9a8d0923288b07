import MethodSig.Proofs.LogLevel

/-!
# `Proofs.Ending` — how a run ends

In the environment that it really has, a run ends in one of few ways, and each is an equation: the settings
are wrong; or they are right and the arguments are wrong; or both are right and there is a request, which
is for help, for a signature or for tokens. `FailsWith` lists the ways that are failures, in the order in
which they are found. Before all that a run can break off over the file of variables (`EndsAt`).

The exit status, the standard error and what is left of the standard output follow from the way
(`run_exit`). A failure leaves lines of the log at most: nothing is printed before a run is known to
succeed. What the libraries say in their own words is any text; a report is never empty, as it ends with a
line feed.
-/

namespace MethodSig.CommandLine

variable {env loaded outside : Environment} {file : Option String} {arguments : List String}
  {settings : Settings} {output : Option OutputFormat} {text : String} {f : Failure}

/-! ## Runs, one way at a time -/

theorem runIn_of_misread {e : UnknownFormat} (hread : Settings.read env = .error e) :
    runIn env arguments = ⟨outsideOf env, [], .error (.settings e)⟩ := by
  unfold runIn
  rw [hread]

theorem runIn_of_misused {e : ArgumentError} (hread : Settings.read env = .ok settings)
    (harguments : Request.ofArguments arguments = .error e) :
    runIn env arguments = ⟨outsideOf env, [], .error (.arguments e)⟩ := by
  unfold runIn
  rw [hread]
  simp only [harguments]

theorem runIn_of_request {request : Request} (hread : Settings.read env = .ok settings)
    (harguments : Request.ofArguments arguments = .ok request) :
    runIn env arguments = request.run settings (outsideOf env) := by
  unfold runIn
  rw [hread]
  simp only [harguments]

/-- A signature that is there is recorded and shown. -/
theorem run_signature_of_ok {d : Signature} (hparse : Signature.parse text = .ok d) :
    (Request.command (.signature output text)).run settings outside =
      ⟨outside, Event.shownAt settings.level [.parsed d],
        .ok (showSignature d (output.getD settings.output))⟩ := by
  simp only [Request.run, Command.run, Signature.parseLogged, hparse]
  rfl

/-- A signature that is not there is recorded only. -/
theorem run_signature_of_error {why : Rejection} (hparse : Signature.parse text = .error why) :
    (Request.command (.signature output text)).run settings outside =
      ⟨outside, Event.shownAt settings.level [.rejected why], .error (.rejected why)⟩ := by
  simp only [Request.run, Command.run, Signature.parseLogged, hparse]
  rfl

/-- The delimiters at which a command splits. -/
def chosenDelimiters (settings : Settings) (delimiters : List String) : List String :=
  if delimiters.isEmpty then settings.delimiters else delimiters

/-- What is recorded of the choice: a remark, if it fell on those of the settings. -/
def choiceEvents (delimiters : List String) : List Event :=
  if delimiters.isEmpty then [.defaultDelimiters] else []

theorem chooseSplitter_eq (settings : Settings) (delimiters : List String) :
    chooseSplitter settings delimiters =
      ⟨.ofDelimiters (chosenDelimiters settings delimiters), choiceEvents delimiters⟩ := by
  cases delimiters with
  | nil => rfl
  | cons d delimiters => rfl

/-- Tokens are recorded in numbers, behind the choice of the splitter, and shown. -/
theorem run_split {delimiters : List String} {source : String} (splitter : Splitter)
    (hsplitter : splitter = .ofDelimiters (chosenDelimiters settings delimiters)) :
    (Request.command (.split output delimiters source)).run settings outside =
      ⟨outside, Event.shownAt settings.level (choiceEvents delimiters ++
          [.split source.length (splitter.split source).length splitter.separators.size]),
        .ok (showTokens (splitter.split source) (output.getD settings.output))⟩ := by
  subst hsplitter
  simp only [Request.run, Command.run, chooseSplitter_eq]
  rfl

/-! ## Failures -/

/-- **How a run fails**, in the order in which it is found. -/
inductive FailsWith (env : Environment) (arguments : List String) : Failure → Prop
  /-- The settings are wrong. The arguments do not matter then. -/
  | settings {e : UnknownFormat} (hread : Settings.read env = .error e) :
      FailsWith env arguments (.settings e)
  /-- The settings are right and the arguments are not accepted. -/
  | arguments {settings : Settings} {e : ArgumentError} (hread : Settings.read env = .ok settings)
      (harguments : Request.ofArguments arguments = .error e) : FailsWith env arguments (.arguments e)
  /-- Both are right, and the text that should be a signature is rejected. -/
  | rejected {settings : Settings} {output : Option OutputFormat} {text : String} {why : Rejection}
      (hread : Settings.read env = .ok settings)
      (harguments : Request.ofArguments arguments = .ok (.command (.signature output text)))
      (hparse : Signature.parse text = .error why) : FailsWith env arguments (.rejected why)

/-- **How a run succeeds**, and what it prints. -/
inductive SucceedsWith (env : Environment) (arguments : List String) : String → Prop
  /-- Help was asked for. -/
  | help {settings : Settings} {topic : Option CommandName} (hread : Settings.read env = .ok settings)
      (harguments : Request.ofArguments arguments = .ok (.help topic)) :
      SucceedsWith env arguments (helpText topic)
  /-- The text holds a signature. -/
  | signature {settings : Settings} {output : Option OutputFormat} {text : String} {d : Signature}
      (hread : Settings.read env = .ok settings)
      (harguments : Request.ofArguments arguments = .ok (.command (.signature output text)))
      (hparse : Signature.parse text = .ok d) :
      SucceedsWith env arguments (showSignature d (output.getD settings.output))
  /-- A text was split, whatever it is. -/
  | split {settings : Settings} {output : Option OutputFormat} {delimiters : List String}
      {source : String} (hread : Settings.read env = .ok settings)
      (harguments : Request.ofArguments arguments = .ok (.command (.split output delimiters source))) :
      SucceedsWith env arguments
        (showTokens ((Splitter.ofDelimiters (chosenDelimiters settings delimiters)).split source)
          (output.getD settings.output))

/-- How a run with this result ends. -/
def EndsWith (env : Environment) (arguments : List String) : Except Failure String → Prop
  | .error f => FailsWith env arguments f
  | .ok printed => SucceedsWith env arguments printed

theorem endsWith_runIn (env : Environment) (arguments : List String) :
    EndsWith env arguments (runIn env arguments).result := by
  cases hread : Settings.read env with
  | error e =>
      rw [runIn_of_misread hread]
      exact .settings hread
  | ok settings =>
      cases harguments : Request.ofArguments arguments with
      | error e =>
          rw [runIn_of_misused hread harguments]
          exact .arguments hread harguments
      | ok request =>
          rw [runIn_of_request hread harguments]
          cases request with
          | help topic => exact .help hread harguments
          | command c =>
              cases c with
              | signature output text =>
                  cases hparse : Signature.parse text with
                  | error why =>
                      rw [run_signature_of_error hparse]
                      exact .rejected hread harguments hparse
                  | ok d =>
                      rw [run_signature_of_ok hparse]
                      exact .signature hread harguments hparse
              | split output delimiters source =>
                  rw [run_split _ rfl]
                  exact .split hread harguments

theorem FailsWith.result_eq (h : FailsWith env arguments f) :
    (runIn env arguments).result = .error f := by
  cases h with
  | settings hread => rw [runIn_of_misread hread]
  | arguments hread harguments => rw [runIn_of_misused hread harguments]
  | rejected hread harguments hparse =>
      rw [runIn_of_request hread harguments, run_signature_of_error hparse]

theorem SucceedsWith.result_eq {printed : String} (h : SucceedsWith env arguments printed) :
    (runIn env arguments).result = .ok printed := by
  cases h with
  | help hread harguments =>
      rw [runIn_of_request hread harguments]
      rfl
  | signature hread harguments hparse =>
      rw [runIn_of_request hread harguments, run_signature_of_ok hparse]
  | split hread harguments => rw [runIn_of_request hread harguments, run_split _ rfl]

/-- **A run fails exactly in one of these ways.** -/
theorem result_eq_error_iff : (runIn env arguments).result = .error f ↔ FailsWith env arguments f := by
  constructor
  · intro h
    have hends := endsWith_runIn env arguments
    rwa [h] at hends
  · exact FailsWith.result_eq

/-- **A run succeeds exactly in one of these ways.** -/
theorem result_eq_ok_iff {printed : String} :
    (runIn env arguments).result = .ok printed ↔ SucceedsWith env arguments printed := by
  constructor
  · intro h
    have hends := endsWith_runIn env arguments
    rwa [h] at hends
  · exact SucceedsWith.result_eq

/-- Only a rejected text leaves a log. -/
theorem FailsWith.events_eq_nil (h : FailsWith env arguments f) (hf : ∀ why, f ≠ .rejected why) :
    (runIn env arguments).events = [] := by
  cases h with
  | settings hread => rw [runIn_of_misread hread]
  | arguments hread harguments => rw [runIn_of_misused hread harguments]
  | @rejected _ _ _ why _ _ _ => exact absurd rfl (hf why)

/-! ## What can be seen of a run -/

/-- A run that does not break off shows things as its environment asks for. -/
theorem outside_runIn (env : Environment) (arguments : List String) :
    (runIn env arguments).outside = outsideOf env := by
  unfold runIn
  cases Settings.read env with
  | error e => rfl
  | ok settings =>
      cases Request.ofArguments arguments with
      | error e => rfl
      | ok request => cases request <;> rfl

namespace Outcome

variable {o : Outcome} {w : Wording} {given : List String}

/-- The exit status, and what goes to the standard output and to the standard error. -/
def answer (o : Outcome) (w : Wording) (given : List String) : Nat × String × String :=
  (o.exit, o.stdout, o.stderr w given)

theorem exit_eq_zero_iff : o.exit = 0 ↔ ∃ printed, o.result = .ok printed := by
  unfold exit
  cases o.result with
  | ok printed => simp
  | error f => cases f <;> simp

theorem stderr_of_exit_eq_zero (h : o.exit = 0) : o.stderr w given = "" := by
  obtain ⟨printed, hprinted⟩ := exit_eq_zero_iff.mp h
  unfold stderr
  rw [hprinted]

theorem stderr_of_result_eq (h : o.result = .error f) :
    o.stderr w given = f.report w o.outside given := by
  unfold stderr
  rw [h]

/-- A failure prints nothing behind the log. -/
theorem stdout_of_result_eq (h : o.result = .error f) : o.stdout = unlines o.lines := by
  rw [stdout_eq, printed, h]
  exact String.append_empty

end Outcome

theorem FailsWith.exit_eq (h : FailsWith env arguments f) : (runIn env arguments).exit = 1 := by
  rw [Outcome.exit, h.result_eq]
  cases h <;> rfl

theorem SucceedsWith.exit_eq {printed : String} (h : SucceedsWith env arguments printed) :
    (runIn env arguments).exit = 0 :=
  Outcome.exit_eq_zero_iff.mpr ⟨printed, h.result_eq⟩

/-- A run that does not break off fails or succeeds. -/
theorem failsWith_or_succeedsWith (env : Environment) (arguments : List String) :
    (∃ f, FailsWith env arguments f) ∨ ∃ printed, SucceedsWith env arguments printed := by
  have hends := endsWith_runIn env arguments
  cases hresult : (runIn env arguments).result with
  | error f =>
      rw [hresult] at hends
      exact Or.inl ⟨f, hends⟩
  | ok printed =>
      rw [hresult] at hends
      exact Or.inr ⟨printed, hends⟩

/-- A failure is always reported, whatever the words are. -/
theorem Failure.report_ne_empty (w : Wording) (outside : Environment) (given : List String) (f : Failure) :
    f.report w outside given ≠ "" := by
  have hline : ∀ s : String, s ++ "\n" ≠ "" := by
    intro s h
    have hlength : (s ++ "\n").length = 0 := by rw [h]; rfl
    rw [String.length_append] at hlength
    exact absurd hlength (Nat.succ_ne_zero s.length)
  cases f with
  | unstorable key value => exact hline _
  | settings e => exact hline _
  | arguments e => cases e <;> exact hline _
  | rejected why => exact hline _

/-- What is said about a failure depends on the arguments only where these are at fault. -/
theorem Failure.report_congr {w : Wording} {outside : Environment} {given₁ given₂ : List String} {f : Failure}
    (h : f = .arguments .usage → w.usage outside given₁ = w.usage outside given₂) :
    f.report w outside given₁ = f.report w outside given₂ := by
  cases f with
  | unstorable key value => rfl
  | settings e => rfl
  | rejected why => rfl
  | arguments e =>
      cases e with
      | format given e => rfl
      | usage =>
          show w.usage outside given₁ ++ "\n" = w.usage outside given₂ ++ "\n"
          rw [h rfl]

/-- Of the same result the same is said with other arguments, unless it is that these are at fault. -/
theorem Outcome.stderr_congr {o₁ o₂ : Outcome} {w : Wording} {given₁ given₂ : List String}
    (hresult : o₁.result = o₂.result) (houtside : o₁.outside = o₂.outside)
    (husage : o₁.result = .error (.arguments .usage) →
      w.usage o₁.outside given₁ = w.usage o₁.outside given₂) :
    o₁.stderr w given₁ = o₂.stderr w given₂ := by
  rw [Outcome.stderr, Outcome.stderr, ← hresult, ← houtside]
  cases hfailure : o₁.result with
  | ok printed => rfl
  | error f =>
      refine Failure.report_congr fun hf => husage ?_
      rw [hfailure, hf]

theorem Outcome.answer_congr {o : Outcome} {w : Wording} {given₁ given₂ : List String}
    (h : o.result = .error (.arguments .usage) → w.usage o.outside given₁ = w.usage o.outside given₂) :
    o.answer w given₁ = o.answer w given₂ := by
  rw [Outcome.answer, Outcome.answer, Outcome.stderr_congr rfl rfl h]

/-- Arguments that are accepted are not at fault. -/
theorem result_runIn_ne_usage {request : Request}
    (harguments : Request.ofArguments arguments = .ok request) :
    (runIn env arguments).result ≠ .error (.arguments .usage) := by
  intro hresult
  cases result_eq_error_iff.mp hresult with
  | arguments hread hmisused =>
      rw [harguments] at hmisused
      cases hmisused

theorem result_ne_usage {request : Request} (harguments : Request.ofArguments arguments = .ok request) :
    (run arguments env file).result ≠ .error (.arguments .usage) := by
  cases hload : withFile env file with
  | error e =>
      rw [run_of_unstorable hload]
      simp [broken]
  | ok loaded =>
      rw [run_of_loaded hload]
      exact result_runIn_ne_usage harguments

/-- A run breaks off exactly if the file has, for a variable that is missing, a value that no variable can
    have. -/
theorem exists_withFile_eq_error_iff : (∃ e, withFile env file = .error e) ↔
    ∃ text ∈ file, ∃ name, ¬ env.Admits (DotEnv.entries env text) name := by
  cases file with
  | none =>
      constructor
      · rintro ⟨e, ⟨⟩⟩
      · rintro ⟨text, ⟨⟩, -⟩
  | some text =>
      refine DotEnv.exists_fill_eq_error_iff.trans ?_
      constructor
      · intro h
        exact ⟨text, rfl, h⟩
      · rintro ⟨other, hother, h⟩
        cases hother
        exact h

/-- **How a run ends**, with which status. -/
inductive EndsAt (arguments : List String) (env : Environment) (file : Option String) : Nat → Prop
  /-- It breaks off over the file. -/
  | breaks {e : DotEnv.Unstorable} (hload : withFile env file = .error e) : EndsAt arguments env file 101
  /-- It fails. -/
  | fails {loaded : Environment} {f : Failure} (hload : withFile env file = .ok loaded)
      (hf : FailsWith loaded arguments f) : EndsAt arguments env file 1
  /-- It succeeds. -/
  | succeeds {loaded : Environment} {printed : String} (hload : withFile env file = .ok loaded)
      (hprinted : SucceedsWith loaded arguments printed) : EndsAt arguments env file 0

theorem EndsAt.exit_eq {status : Nat} (h : EndsAt arguments env file status) :
    (run arguments env file).exit = status := by
  cases h with
  | breaks hload =>
      rw [run_of_unstorable hload]
      rfl
  | fails hload hf =>
      rw [run_of_loaded hload]
      exact hf.exit_eq
  | succeeds hload hprinted =>
      rw [run_of_loaded hload]
      exact hprinted.exit_eq

theorem endsAt_exit (arguments : List String) (env : Environment) (file : Option String) :
    EndsAt arguments env file (run arguments env file).exit := by
  cases hload : withFile env file with
  | error e =>
      have hend : EndsAt arguments env file 101 := .breaks hload
      rwa [hend.exit_eq]
  | ok loaded =>
      rcases failsWith_or_succeedsWith loaded arguments with ⟨f, hf⟩ | ⟨printed, hprinted⟩
      · have hend : EndsAt arguments env file 1 := .fails hload hf
        rwa [hend.exit_eq]
      · have hend : EndsAt arguments env file 0 := .succeeds hload hprinted
        rwa [hend.exit_eq]

/-- **The status tells how a run ends.** -/
theorem exit_eq_iff {status : Nat} :
    (run arguments env file).exit = status ↔ EndsAt arguments env file status := by
  constructor
  · intro h
    have hends := endsAt_exit arguments env file
    rwa [h] at hends
  · exact EndsAt.exit_eq

theorem endsAt_breaks_iff :
    EndsAt arguments env file 101 ↔ ∃ e, withFile env file = .error e := by
  constructor
  · intro h
    cases h with
    | breaks hload => exact ⟨_, hload⟩
  · rintro ⟨e, hload⟩
    exact .breaks hload

theorem endsAt_fails_iff : EndsAt arguments env file 1 ↔
    ∃ loaded, withFile env file = .ok loaded ∧ ∃ f, FailsWith loaded arguments f := by
  constructor
  · intro h
    cases h with
    | fails hload hf => exact ⟨_, hload, _, hf⟩
  · rintro ⟨loaded, hload, f, hf⟩
    exact .fails hload hf

theorem endsAt_succeeds_iff : EndsAt arguments env file 0 ↔
    ∃ loaded, withFile env file = .ok loaded ∧ ∃ printed, SucceedsWith loaded arguments printed := by
  constructor
  · intro h
    cases h with
    | succeeds hload hprinted => exact ⟨_, hload, _, hprinted⟩
  · rintro ⟨loaded, hload, printed, hprinted⟩
    exact .succeeds hload hprinted

/-- Wrong settings are reported alike, whatever the arguments are. -/
theorem answer_of_misread {e : UnknownFormat} (hload : withFile env file = .ok loaded)
    (hread : Settings.read loaded = .error e) (given : List String) (w : Wording) :
    (run given env file).answer w given =
      (1, "", (Failure.settings e).report w (outsideOf loaded) []) := by
  rw [run_of_loaded hload, runIn_of_misread hread]
  rfl

/-- So is a file that breaks off. -/
theorem answer_of_unstorable {e : DotEnv.Unstorable} (hload : withFile env file = .error e)
    (given : List String) (w : Wording) :
    (run given env file).answer w given =
      (101, "", (Failure.unstorable e.key e.value).report w (outsideOf e.env) []) := by
  rw [run_of_unstorable hload]
  rfl

/-- **When a run fails, and what is seen of it.** It breaks off, with the status 101, exactly if the file
    has a value that no variable can have for one that is missing. Else it fails exactly if the settings
    are wrong, or else the arguments are, or else the text is rejected, and then its status is 1; and it
    succeeds exactly if help was asked for, or the text is a signature, or a text is split, and then its
    status is 0 and nothing goes to the standard error. A failure is reported there, whatever the words of
    the libraries are; what goes to the standard output are lines of the log alone, and those only if a
    text was rejected. Where the run breaks off or the settings are wrong, all arguments come to the
    same. -/
theorem run_exit (arguments : List String) (env : Environment) (file : Option String) :
    ((run arguments env file).exit = 101 ↔
        ∃ text ∈ file, ∃ name, ¬ env.Admits (DotEnv.entries env text) name) ∧
      ((run arguments env file).exit = 1 ↔
        ∃ loaded, withFile env file = .ok loaded ∧ ∃ f, FailsWith loaded arguments f) ∧
      ((run arguments env file).exit = 0 ↔
        ∃ loaded, withFile env file = .ok loaded ∧ ∃ printed, SucceedsWith loaded arguments printed) ∧
      ((run arguments env file).exit = 0 ∨ (run arguments env file).exit = 1 ∨
        (run arguments env file).exit = 101) ∧
      ((run arguments env file).exit = 0 → ∀ w, (run arguments env file).stderr w arguments = "") ∧
      (∀ loaded f, withFile env file = .ok loaded → FailsWith loaded arguments f →
        (∀ w, (run arguments env file).stderr w arguments = f.report w (outsideOf loaded) arguments ∧
          f.report w (outsideOf loaded) arguments ≠ "") ∧
          (run arguments env file).stdout = unlines (run arguments env file).lines ∧
          (∀ line ∈ (run arguments env file).lines, OneLine line) ∧
          ((∀ why, f ≠ .rejected why) → (run arguments env file).stdout = "")) ∧
      (∀ loaded e, withFile env file = .ok loaded → Settings.read loaded = .error e →
        ∀ others w, (run others env file).answer w others = (run arguments env file).answer w arguments) ∧
      ((run arguments env file).exit = 101 →
        (run arguments env file).stdout = "" ∧ (∀ w, (run arguments env file).stderr w arguments ≠ "") ∧
          ∀ others w,
            (run others env file).answer w others = (run arguments env file).answer w arguments) := by
  have hbreaks := exit_eq_iff.trans (@endsAt_breaks_iff env file arguments)
  refine ⟨hbreaks.trans exists_withFile_eq_error_iff, exit_eq_iff.trans endsAt_fails_iff,
    exit_eq_iff.trans endsAt_succeeds_iff, ?_, fun h w => Outcome.stderr_of_exit_eq_zero h, ?_, ?_, ?_⟩
  · have hends := endsAt_exit arguments env file
    generalize (run arguments env file).exit = status at hends
    cases hends <;> simp
  · intro loaded f hload hf
    have hlines : ∀ line ∈ (run arguments env file).lines, OneLine line := oneLine_of_mem_lines
    rw [run_of_loaded hload] at hlines ⊢
    have hstdout := Outcome.stdout_of_result_eq hf.result_eq
    refine ⟨fun w => ⟨?_, f.report_ne_empty w _ _⟩, hstdout, hlines, ?_⟩
    · rw [Outcome.stderr_of_result_eq hf.result_eq, outside_runIn]
    · intro hnot
      rw [hstdout, Outcome.lines, hf.events_eq_nil hnot]
      rfl
  · intro loaded e hload hread others w
    rw [answer_of_misread hload hread, answer_of_misread hload hread]
  · intro hexit
    obtain ⟨e, hload⟩ := hbreaks.mp hexit
    refine ⟨?_, ?_, ?_⟩
    · rw [run_of_unstorable hload]
      rfl
    · intro w
      rw [run_of_unstorable hload]
      exact Failure.report_ne_empty w (outsideOf e.env) arguments (.unstorable e.key e.value)
    · intro others w
      rw [answer_of_unstorable hload, answer_of_unstorable hload]

/-- Help is asked for, and the settings of the environment are right; but the file has a value that no
    variable can have. -/
theorem run_breaks_off :
    Request.ofArguments ["--help"] = .ok (.help none) ∧
      Settings.read (Environment.ofList []) = .ok {} ∧
      (run ["--help"] (Environment.ofList []) (some "A=\x00\n")).exit = 101 ∧
      (run ["--help"] (Environment.ofList []) none).exit = 0 :=
  ⟨by rfl, by rfl, by decide +kernel, by decide +kernel⟩

end MethodSig.CommandLine
