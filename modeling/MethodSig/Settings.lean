import MethodSig.Environment
import MethodSig.Log
import MethodSig.Text.Basic

/-!
# `Settings` — what the environment decides

Three variables decide how much is logged, how results are printed, and where texts are cut when no
delimiters are given. The variables are looked up one after another, and the names that were asked
for are recorded, so that one can tell on which variables a result depends.

An unknown level is not an error, it means `INFO`. An unknown output format is the only error, and
ends the look-ups. A variable that is blank counts as unset; for the delimiters only an empty one
does, since a blank is a delimiter.
-/

namespace MethodSig

/-! ## Output formats -/

/-- How results are printed. -/
inductive OutputFormat where
  /-- Pretty JSON. -/
  | json
  /-- Tables. -/
  | table
deriving DecidableEq

/-- A value that names no output format. -/
structure UnknownFormat where
  /-- The value as it was given. -/
  value : String
deriving DecidableEq

/-- What is wrong with the value. -/
def UnknownFormat.message (e : UnknownFormat) : String :=
  "Unknown output format `" ++ e.value ++ "` (expected `json` or `table`)"

namespace OutputFormat

/-- The name of the format. -/
def name : OutputFormat → String
  | json => "json"
  | table => "table"

/-- The format that a value names, whatever the case of its letters and the blanks around it. -/
def ofName (value : String) : Except UnknownFormat OutputFormat :=
  if Text.normalized value = "json" then .ok json
  else if Text.normalized value = "table" then .ok table
  else .error ⟨value⟩

/-- The format of a setting that may be missing or blank, and then is JSON. -/
def ofSetting : Option String → Except UnknownFormat OutputFormat
  | none => .ok json
  | some value => if Text.isBlankText value then .ok json else ofName value

end OutputFormat

/-- The level of a setting that may be missing or unknown, and then is `INFO`. -/
def Level.ofSetting : Option String → Level
  | none => .info
  | some value =>
    let name := Text.normalized value
    if name = "trace" then .trace
    else if name = "debug" then .debug
    else if name = "warn" then .warn
    else if name = "error" then .error
    else .info

/-! ## Settings -/

/-- What the environment decides. -/
structure Settings where
  /-- The least severe level that is logged. -/
  level : Level := .info
  /-- How results are printed. -/
  output : OutputFormat := .json
  /-- The delimiters where none are given. -/
  delimiters : List String := [" "]
deriving DecidableEq

namespace Settings

/-- The variable of the level. -/
def levelVariable : String := "SIGSPLIT_LOG_LEVEL"

/-- The variable of the output format. -/
def outputVariable : String := "SIGSPLIT_OUTPUT"

/-- The variable of the delimiters. -/
def delimitersVariable : String := "SIGSPLIT_DELIMITERS"

/-- The names of the three variables, in the order in which they are looked up. -/
def names : List String := [levelVariable, outputVariable, delimitersVariable]

/-- The characters of a text, each as a text of its own. -/
def characters (v : String) : List String := v.toList.map fun c => String.ofList [c]

/-- The delimiters of a setting: each of its characters is one. A missing or empty setting means a
space. -/
def delimitersOfSetting : Option String → List String
  | none => [" "]
  | some value => if value.isEmpty then [" "] else characters value

/-- Looks a variable up and records its name. -/
def ask (env : Environment) (name : String) : Traced String (Option String) := do
  Traced.record name
  return env name

/-- The settings of an environment, recording the names that were looked up. -/
def readAsking (env : Environment) : Traced String (Except UnknownFormat Settings) := do
  let level := Level.ofSetting (← ask env levelVariable)
  match OutputFormat.ofSetting (← ask env outputVariable) with
  | .error e => return .error e
  | .ok output =>
    let delimiters := delimitersOfSetting (← ask env delimitersVariable)
    return .ok { level, output, delimiters }

/-- The settings of an environment. -/
def read (env : Environment) : Except UnknownFormat Settings := (readAsking env).value

end Settings

end MethodSig
