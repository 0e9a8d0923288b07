/-!
# `Environment` — variables and their values

An environment gives every variable a value or none. A variable that is set to the empty text has a
value.

The environment is also a list of entries `name=value`, and can be asked for what an entry has
behind some text and `=`. For a text without `=` that is the value of the variable of that name. An
entry ends at the character NUL, so no value can hold it.
-/

namespace MethodSig

/-- The value of each variable that has one. -/
abbrev Environment := String → Option String

namespace Environment

/-- The environment of a list of variables; of several values for one name the first counts. -/
def ofList (entries : List (String × String)) : Environment := fun name => entries.lookup name

/-- `env` with a value for `name`, unless it has one already. -/
def setIfAbsent (env : Environment) (name value : String) : Environment := fun other =>
  if other = name then (env name).or (some value) else env other

@[simp] theorem setIfAbsent_self (env : Environment) (name value : String) :
    env.setIfAbsent name value name = (env name).or (some value) := by
  simp [setIfAbsent]

theorem setIfAbsent_of_ne (env : Environment) {name other : String} (value : String)
    (h : other ≠ name) : env.setIfAbsent name value other = env other := by
  simp [setIfAbsent, h]

/-- Whether a variable can be given the value. -/
def isStorable (value : String) : Bool := !value.toList.contains '\x00'

/-- What the entry that begins with `start` and `=` has behind them. -/
def behind? (env : Environment) (start : List Char) : Option (List Char) :=
  let value? := (env (String.ofList (start.takeWhile (· ≠ '=')))).map String.toList
  match start.dropWhile (· ≠ '=') with
  | [] => value?
  | _ :: opening => value?.bind (opening ++ ['=']).isPrefixOf?

end Environment

end MethodSig
