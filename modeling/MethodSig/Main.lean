import MethodSig.CommandLine.Outcome

/-!
# The program

Reads the environment and a file `.env`, and does what `CommandLine.run` says. The file is looked for
in the working directory and then in the directories above it. The first one counts, also if it
cannot be read. It is read up to the first line that is no UTF-8.

Of the environment only the variables are read that a run can depend on (`relevantVariables`). A value
or an argument that is no UTF-8 is read with replacement characters in it. What the libraries behind
`CommandLine.Wording` would say is replaced by words of this program, and a report never goes on with
where the failure comes from.
-/

namespace MethodSig.CommandLine

/-- The text of bytes up to the first line that is no UTF-8. The line feed in front of that line is
part of it. -/
def textOfBytes (bytes : ByteArray) : String :=
  let decoded := (bytes.toList.splitOn '\n'.toUInt8).map fun line => String.fromUTF8? ⟨line.toArray⟩
  let (read, unread) := decoded.span Option.isSome
  "\n".intercalate (read.filterMap id ++ if unread.isEmpty then [] else [""])

/-- Whether there is a file at `path`, and its text, if it can be read. -/
def readFile? (path : String) : IO (Option (Option String)) := do
  try
    return some (some (textOfBytes (← IO.FS.readBinFile path)))
  catch
    | .noFileOrDirectory .. | .inappropriateType .. => return none
    | _ => return some none

/-- The text of the first file `.env` in a directory or one of the `levels` directories above it. -/
def findFile? (directory : String) : Nat → IO (Option String)
  | 0 => return (← readFile? (directory ++ ".env")).join
  | levels + 1 => do
    match ← readFile? (directory ++ ".env") with
    | some text? => return text?
    | none => findFile? (directory ++ "../") levels

/-- The number of directories above the working directory. -/
def levelsAbove : IO Nat := do
  return ((toString (← IO.currentDir)).toList.filter (· == '/')).length

/-- The values of variables in the environment of the process. -/
def readEnvironment (names : List String) : IO Environment := do
  let values ← names.mapM fun name => do
    return (← IO.getEnv name).map fun value => (name, value)
  return .ofList (values.filterMap id)

/-- The words of the libraries, as far as this program says anything in their place. -/
def plainWording : Wording where
  usage _ _ := "Error: the arguments fit no command, try --help"
  breakdown _ key _ := "Error: the variable " ++ key ++ " cannot be given its value"
  trail _ _ := ""

end MethodSig.CommandLine

open MethodSig in
def main (arguments : List String) : IO UInt32 := do
  let file ← CommandLine.findFile? "" (← CommandLine.levelsAbove)
  let env ← CommandLine.readEnvironment (CommandLine.relevantVariables file)
  let outcome := CommandLine.run arguments env file
  IO.print outcome.stdout
  IO.eprint (outcome.stderr CommandLine.plainWording arguments)
  return UInt32.ofNat outcome.exit
