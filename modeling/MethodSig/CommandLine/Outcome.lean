import MethodSig.CommandLine.Help
import MethodSig.DotEnv
import MethodSig.Json.Signature
import MethodSig.Table
import MethodSig.Text.Wrapped

/-!
# `Outcome` — what a run of the program comes to

A run depends on its arguments, on the environment and on the text of a file of variables, if there
is one. It comes to lines for the log and either a result or a failure. The lines and the result go
to the standard output, in this order, a failure to the standard error; the exit status tells how
the run ended.

What can fail does so in a fixed order: the file of variables, the settings, the arguments, the
signature. The file can only fail by a value that a variable cannot be given. Then the run breaks off
with a status of its own, before anything else is looked at.

The libraries of the program look at variables outside of the settings, and decide by them how things
are shown. Whether the log is in colours is modelled; the words that are the libraries' own are a
parameter (`Wording`). Left out are the colours of help and of the complaint about an output format:
the output is taken to go to no terminal, and no variable to ask for colours there.
-/

namespace MethodSig.CommandLine

/-! ## Results -/

/-- A signature as it is printed: as JSON, or its canonical text and a table of the parameters if
there are any. -/
def showSignature (s : Signature) : OutputFormat → String
  | .json => s.toJson.pretty ++ "\n"
  | .table =>
    s.canonical ++ "\n" ++
      if s.params.isEmpty then "" else (Table.ofParams s.params).text ++ "\n"

/-- Tokens as JSON. -/
def tokensToJson (tokens : List String) : Json := .array (tokens.map .string)

/-- Tokens as they are printed. -/
def showTokens (tokens : List String) : OutputFormat → String
  | .json => (tokensToJson tokens).pretty ++ "\n"
  | .table => (Table.ofTokens tokens).text ++ "\n"

/-- The splitter for the delimiters that were given, or else for those of the settings. -/
def chooseSplitter (settings : Settings) (delimiters : List String) : Traced Event Splitter := do
  if delimiters.isEmpty then
    Traced.record .defaultDelimiters
    return .ofDelimiters settings.delimiters
  else return .ofDelimiters delimiters

/-- Runs a command: what it prints, or why its text was rejected. -/
def Command.run (settings : Settings) : Command → Traced Event (Except Rejection String)
  | .signature output text => do
    let answer ← Signature.parseLogged text
    return answer.map fun s => showSignature s (output.getD settings.output)
  | .split output delimiters source => do
    let splitter ← chooseSplitter settings delimiters
    let tokens ← splitter.splitLogged source
    return .ok (showTokens tokens (output.getD settings.output))

/-! ## Failures -/

/-- Why a run failed. -/
inductive Failure where
  /-- The file of variables has a value that a variable cannot be given. -/
  | unstorable (key value : String)
  /-- The settings ask for an unknown output format. -/
  | settings (e : UnknownFormat)
  /-- The arguments cannot be understood. -/
  | arguments (e : ArgumentError)
  /-- The text holds no signature. -/
  | rejected (why : Rejection)

/-- `text` with `n` spaces behind every line feed. -/
def indented (n : Nat) (text : String) : String :=
  String.ofList (text.toList.flatMap fun c =>
    if c = '\n' then c :: List.replicate n ' ' else [c])

/-- How a value of an option is shown: as it is, or by the option if it is empty. -/
def Given.shown (name : OptionName) (given : Given) : String :=
  if given.value.isEmpty then
    name.text given.spelling ++ (if given.attached then "=" else " ") ++ "\"\""
  else given.value

/-- What is said about a value that names no output format, in lines of a hundred characters. -/
def formatMessage (given : Given) (e : UnknownFormat) : String :=
  Text.wrapped 100
    [.plain "couldn't parse ", .ticked (given.shown .output), .plain (": " ++ e.message)]

/-- What the libraries of the program say in their own words. They may look at the variables outside
of the settings. -/
structure Wording where
  /-- What is said about arguments that do not fit the commands. -/
  usage (outside : Environment) (arguments : List String) : String
  /-- What is said where a variable cannot be given its value. -/
  breakdown (outside : Environment) (key value : String) : String
  /-- What a report goes on with: from where in the program the failure comes, where a variable asks
  for that, and else nothing. -/
  trail (outside : Environment) (failure : Failure) : String

/-- What is said about a failure. -/
def Failure.report (w : Wording) (outside : Environment) (given : List String) : Failure → String
  | unstorable key value => w.breakdown outside key value ++ "\n"
  | settings e =>
    "Error: Invalid sigsplit configuration\n\nCaused by:\n    " ++ indented 4 e.message ++
      w.trail outside (.settings e) ++ "\n"
  | arguments .usage => w.usage outside given ++ "\n"
  | arguments (.format given e) => "Error: " ++ formatMessage given e ++ "\n"
  | rejected why =>
    "Error: Could not parse method signature\n\nCaused by:\n    0: " ++ indented 7 why.message ++
      "\n    1: " ++ indented 7 why.detail ++ w.trail outside (.rejected why) ++ "\n"

/-! ## Runs -/

/-- What a run comes to. -/
structure Outcome where
  /-- The variables other than those of the settings. -/
  outside : Environment
  /-- The events that the log shows. -/
  events : List Event
  /-- What is printed, or why the run failed. -/
  result : Except Failure String

/-- The variables other than those of the settings. -/
def outsideOf (env : Environment) : Environment := fun name =>
  if name ∈ Settings.names then none else env name

/-- The variable that takes the colours from the log, unless it is empty. -/
def noColorVariable : String := "NO_COLOR"

/-- Whether the log is in colours. -/
def isColored (env : Environment) : Bool := (env noColorVariable).all String.isEmpty

namespace Outcome

/-- The lines of the log. -/
def lines (o : Outcome) : List String := o.events.map (Event.line (isColored o.outside))

/-- The log, as complete lines. -/
def log (o : Outcome) : String := unlines o.lines

/-- The exit status. -/
def exit (o : Outcome) : Nat :=
  match o.result with
  | .ok _ => 0
  | .error (.unstorable ..) => 101
  | .error _ => 1

/-- What goes to the standard output. -/
def stdout (o : Outcome) : String :=
  match o.result with
  | .ok text => o.log ++ text
  | .error _ => o.log

/-- What goes to the standard error where these arguments were given. -/
def stderr (o : Outcome) (w : Wording) (given : List String) : String :=
  match o.result with
  | .ok _ => ""
  | .error failure => failure.report w o.outside given

end Outcome

/-- What a request comes to under some settings. -/
def Request.run (settings : Settings) (outside : Environment) : Request → Outcome
  | .help topic => ⟨outside, [], .ok (helpText topic)⟩
  | .command c =>
    let answer := c.run settings
    ⟨outside, Event.shownAt settings.level answer.trace, answer.value.mapError .rejected⟩

/-- What a run comes to in the environment that it really has. -/
def runIn (env : Environment) (arguments : List String) : Outcome :=
  match Settings.read env with
  | .error e => ⟨outsideOf env, [], .error (.settings e)⟩
  | .ok settings =>
    match Request.ofArguments arguments with
    | .error e => ⟨outsideOf env, [], .error (.arguments e)⟩
    | .ok request => request.run settings (outsideOf env)

/-- The environment that a run really has: the file of variables, if there is one, has filled the
gaps. -/
def withFile (env : Environment) : Option String → Except DotEnv.Unstorable Environment
  | none => .ok env
  | some text => DotEnv.fill env text

/-- The variables on which a run can depend, but for the words of the libraries: those of the settings,
the one about colours, and those that the file sets or refers to. -/
def relevantVariables (file : Option String) : List String :=
  noColorVariable :: Settings.names ++ (file.map DotEnv.mentioned).getD []

/-- What a run comes to. -/
def run (arguments : List String) (env : Environment) (file : Option String) : Outcome :=
  match withFile env file with
  | .error e => ⟨outsideOf e.env, [], .error (.unstorable e.key e.value)⟩
  | .ok loaded => runIn loaded arguments

end MethodSig.CommandLine
