import MethodSig.Environment
import MethodSig.Text.Alphanumeric
import MethodSig.Text.Basic

/-!
# `DotEnv` — variables from a file

A file of variables has lines of the form `KEY=value`, with optional blanks around the parts and an
optional `export` in front, blank lines, and comments behind `#`. A value stands as it is, or
between single quotes, or between double quotes, where a backslash escapes the next character;
outside single quotes `$NAME` and `${NAME}` stand for the value of a variable. A quoted value may go
over several lines.

The file says which assignments are to be made (`assignments`). It only fills gaps: a variable that
has a value already keeps it, so of several assignments to one name the first counts. A line that
cannot be read ends the file; what stands before it is done. Where a variable without a value should
get one that it cannot have, more than the file ends: there is no environment to go on with
(`Unstorable`).
-/

namespace MethodSig.DotEnv

/-! ## Lines -/

/-- How the next character of a line is to be taken. -/
inductive Quoting where
  /-- Outside quotes. -/
  | plain
  /-- Outside quotes, behind a blank. -/
  | blank
  /-- Outside quotes, behind a backslash. -/
  | escaped
  /-- Between single quotes. -/
  | single
  /-- Between single quotes, behind a backslash. -/
  | singleEscaped
  /-- Between double quotes. -/
  | double
  /-- Between double quotes, behind a backslash. -/
  | doubleEscaped
deriving DecidableEq

/-- The quoting behind a character that opens something or not. -/
def Quoting.opened (c : Char) : Quoting :=
  if c = '\\' then escaped else if c = '"' then double else if c = '\'' then single else plain

/-- The quoting behind the next character. -/
def Quoting.next (q : Quoting) (c : Char) : Quoting :=
  match q with
  | plain => if Text.isWhiteSpace c ∧ c ≠ '\n' ∧ c ≠ '\r' then blank else opened c
  | blank => opened c
  | escaped => plain
  | single => if c = '\\' then singleEscaped else if c = '\'' then plain else single
  | singleEscaped => single
  | double => if c = '\\' then doubleEscaped else if c = '"' then plain else double
  | doubleEscaped => double

/-- How far a line has been read. -/
inductive LineState where
  /-- Inside the line; `fresh` while it has nothing but blanks so far. -/
  | text (fresh : Bool) (q : Quoting)
  /-- Inside a comment at its end. -/
  | comment

/-- The lines of a text from `state` on, without their comments; `current` is what was read of the
first one, backwards. A line feed between quotes does not end a line, and a last line that ends
between quotes or behind a blank is dropped. -/
def linesFrom (state : LineState) (current : List Char) : List Char → List (List Char)
  | [] =>
    match state with
    | .text _ .plain | .comment => [current.reverse]
    | _ => []
  | c :: rest =>
    match state with
    | .comment =>
      if c = '\n' then current.reverse :: linesFrom (.text true .plain) [] rest
      else linesFrom .comment current rest
    | .text fresh q =>
      if c = '#' ∧ (fresh ∨ q = .blank) then linesFrom .comment current rest
      else if c = '\n' ∧ q.next c = .plain then
        current.reverse :: linesFrom (.text true .plain) [] rest
      else linesFrom (.text (fresh && Text.isWhiteSpace c) (q.next c)) (c :: current) rest

/-- The lines of a text. -/
def lines (s : List Char) : List (List Char) := linesFrom (.text true .plain) [] s

/-! ## Values -/

/-- What a value is written as. -/
inductive Piece where
  /-- A character that stands for itself. -/
  | char (c : Char)
  /-- A reference to the entry of the environment that begins with `name`. -/
  | reference (name : List Char)
deriving DecidableEq

/-- What a piece stands for. -/
def Piece.expand (env : Environment) : Piece → List Char
  | char c => [c]
  | reference name => (env.behind? name).getD []

/-- What pieces stand for, one after another. -/
def expand (env : Environment) (pieces : List Piece) : List Char := pieces.flatMap (Piece.expand env)

/-- The variable that a piece refers to. Of an entry that is asked for by more than a name, it is the
variable before the equals sign. -/
def Piece.referent? : Piece → Option String
  | char _ => none
  | reference name => some (String.ofList (name.takeWhile (· ≠ '=')))

/-- How the next character of a value is to be taken. -/
inductive ValueState where
  /-- As it stands, between double quotes or not. -/
  | text (quoted : Bool)
  /-- Between single quotes. -/
  | single
  /-- Behind a backslash. -/
  | escaped (quoted : Bool)
  /-- In the name of a variable behind `$`, read backwards. It goes on as long as there are letters
  and numbers. -/
  | name (quoted : Bool) (name : List Char)
  /-- In the name of a variable between braces, read backwards. -/
  | braced (quoted : Bool) (name : List Char)
  /-- Behind the value, where only blanks and a comment may follow. -/
  | behind

/-- The character that is escaped by a backslash and `c`. -/
def escapedChar? (c : Char) : Option Char :=
  if c = '\\' ∨ c = '\'' ∨ c = '"' ∨ c = '$' ∨ c = ' ' then some c
  else if c = 'n' then some '\n'
  else none

/-- The pieces of the value that is written by the rest of a line. -/
def pieces? : ValueState → List Char → Option (List Piece)
  | .text quoted, [] => if quoted then none else some []
  | .escaped quoted, [] => if quoted then none else some []
  | .name quoted name, [] => if quoted then none else some [.reference name.reverse]
  | .single, [] => none
  | .braced .., [] => none
  | .behind, [] => some []
  | .behind, c :: rest =>
    if c = ' ' ∨ c = '\t' then pieces? .behind rest
    else if c = '#' then some []
    else none
  | .escaped quoted, c :: rest => do
    let c ← escapedChar? c
    let pieces ← pieces? (.text quoted) rest
    return .char c :: pieces
  | .single, c :: rest =>
    if c = '\'' then pieces? (.text false) rest
    else (pieces? .single rest).map (.char c :: ·)
  | .name quoted name, c :: rest =>
    if Text.isAlphanumeric c then pieces? (.name quoted (c :: name)) rest
    else if c = '{' ∧ name = [] then pieces? (.braced quoted []) rest
    else if c = '$' then
      (pieces? (.name quoted []) rest).map (.reference name.reverse :: ·)
    else
      (pieces? (.text quoted) rest).map (.reference name.reverse :: .char c :: ·)
  | .braced quoted name, c :: rest =>
    if c = '}' then (pieces? (.text quoted) rest).map (.reference name.reverse :: ·)
    else pieces? (.braced quoted (c :: name)) rest
  | .text quoted, c :: rest =>
    if c = '$' then pieces? (.name quoted []) rest
    else if c = '\\' then pieces? (.escaped quoted) rest
    else if c = '"' then pieces? (.text !quoted) rest
    else if quoted then (pieces? (.text true) rest).map (.char c :: ·)
    else if c = '\'' then pieces? .single rest
    else if c = ' ' ∨ c = '\t' then pieces? .behind rest
    else (pieces? (.text false) rest).map (.char c :: ·)

/-! ## Assignments -/

/-- Whether a key may begin with `c`. -/
def isKeyStart (c : Char) : Bool := c.isAlpha || c == '_'

/-- Whether `c` may stand in a key. -/
def isKeyChar (c : Char) : Bool := c.isAlphanum || c == '_' || c == '.'

/-- The key at the front of a line, and what follows it and its blanks. -/
def key? (s : List Char) : Option (String × List Char) :=
  match s with
  | [] => none
  | c :: _ =>
    if isKeyStart c then
      some (String.ofList (s.takeWhile isKeyChar), Text.trimStart (s.dropWhile isKeyChar))
    else none

/-- The key of an assignment, in front of which `export` may stand, and what follows it. -/
def exportedKey? (s : List Char) : Option (String × List Char) := do
  let (key, rest) ← key? s
  if key = "export" ∧ rest.head? ≠ some '=' then key? rest else some (key, rest)

/-- A variable and the value that it is to be given. -/
structure Assignment where
  /-- The name of the variable. -/
  key : String
  /-- What the value is written as. -/
  value : List Piece
deriving DecidableEq

/-- The variables that an assignment refers to. -/
def Assignment.references (a : Assignment) : List String := a.value.filterMap Piece.referent?

/-- What a line says: that a variable is to be given a value, or nothing. There is no answer where
the line cannot be read. -/
def assignment? (line : List Char) : Option (Option Assignment) :=
  let line := Text.trimStart (Text.trimEnd line)
  if line.isEmpty ∨ line.head? = some '#' then some none
  else do
    let (key, rest) ← exportedKey? line
    match rest with
    | '=' :: rest =>
      let rest := Text.trimStart rest
      if rest.isEmpty ∨ rest.head? = some '#' then some (some ⟨key, []⟩)
      else (pieces? (.text false) rest).map fun pieces => some ⟨key, pieces⟩
    | _ => none

/-- The assignments of lines, up to the first line that cannot be read. -/
def assignmentsFrom : List (List Char) → List Assignment
  | [] => []
  | line :: rest =>
    match assignment? line with
    | none => []
    | some none => assignmentsFrom rest
    | some (some a) => a :: assignmentsFrom rest

/-- The text behind a byte order mark. -/
def behindMark : List Char → List Char
  | '\uFEFF' :: s => s
  | s => s

/-- The assignments that a file makes. -/
def assignments (file : String) : List Assignment := assignmentsFrom (lines (behindMark file.toList))

/-- The variables that a file sets or refers to. -/
def mentioned (file : String) : List String :=
  (assignments file).flatMap fun a => a.key :: a.references

/-! ## Filling gaps -/

/-- A value that a variable cannot be given. -/
structure Unstorable where
  /-- The environment as it is filled so far. -/
  env : Environment
  /-- The variable. -/
  key : String
  /-- The value. -/
  value : String

namespace Assignment

/-- The value, in an environment. -/
def valueIn (env : Environment) (a : Assignment) : String := String.ofList (expand env a.value)

/-- `env` with the assignment made, if the variable has no value yet. -/
def perform (env : Environment) (a : Assignment) : Except Unstorable Environment :=
  let value := a.valueIn env
  if env a.key = none ∧ Environment.isStorable value = false then .error ⟨env, a.key, value⟩
  else .ok (env.setIfAbsent a.key value)

end Assignment

/-- `env` with the gaps filled that the file has values for: the assignments are made one after
another. -/
def fill (env : Environment) (file : String) : Except Unstorable Environment :=
  (assignments file).foldlM Assignment.perform env

end MethodSig.DotEnv
