import MethodSig.Json.Literal
import MethodSig.Json.Number
import MethodSig.Signature
import MethodSig.Text.Quoted

/-!
# `Reader` — reading JSON from front to back

A reader takes a value of some type from the front of a text and leaves the rest. It looks at each
character once and never beyond what it needs, so the first problem in the text decides: either the
text is not JSON there, or it is, but says something that the type has no place for.

Arrays and objects are read by two loops that are given the reader of one element or member. Both
count down from the length of the text, which every element and member shortens.
-/

namespace MethodSig.Json

/-! ## Problems -/

/-- What a value turned out to be. -/
inductive Found where
  | null
  | bool (b : Bool)
  | integer (n : Int)
  | double (text : String)
  | string (s : String)
  | sequence
  | map

/-- What a value should have been. -/
inductive Expected where
  /-- A text. -/
  | text
  /-- A list of parameters. -/
  | list
  /-- A parameter: two fields. -/
  | param
  /-- A signature: four fields. -/
  | signature

/-- What a value says that its type has no place for. -/
inductive Mismatch where
  /-- The value is of another kind. -/
  | wrongKind (found : Found) (expected : Expected)
  /-- A field is not given. -/
  | missingField (name : String)
  /-- A field is given again. -/
  | duplicateField (name : String)
  /-- An array in place of the fields ends before the one with this index, counted from zero. -/
  | tooShort (index : Nat) (expected : Expected)
  /-- A text is no visibility keyword. -/
  | unknownVisibility (value : String)

/-- Why a text cannot be read. -/
inductive ReadError where
  /-- It is not JSON. -/
  | malformed
  /-- It is JSON so far, but not for a value of the type. -/
  | mismatch (m : Mismatch)

/-- A value of another kind in words. -/
def Found.words : Found → String
  | null => "null"
  | bool b => "boolean `" ++ toString b ++ "`"
  | integer n => "integer `" ++ toString n ++ "`"
  | double text => "floating point `" ++ text ++ "`"
  | string s => "string " ++ Text.quoted s
  | sequence => "sequence"
  | map => "map"

/-- What was expected in words. -/
def Expected.words : Expected → String
  | .text => "a string"
  | list => "a sequence"
  | param => "struct Argument"
  | signature => "struct MethodDescriptor"

/-- The number of fields that an array in place of them has. -/
def Expected.fields : Expected → Nat
  | param => 2
  | signature => 4
  | .text | list => 0

/-- A mismatch in words. -/
def Mismatch.message : Mismatch → String
  | wrongKind found expected => "invalid type: " ++ found.words ++ ", expected " ++ expected.words
  | missingField name => "missing field `" ++ name ++ "`"
  | duplicateField name => "duplicate field `" ++ name ++ "`"
  | tooShort index expected =>
    "invalid length " ++ toString index ++ ", expected " ++ expected.words ++ " with " ++
      toString expected.fields ++ " elements"
  | unknownVisibility value => Visibility.unknownMessage value

/-! ## Parts of a text -/

/-- Reads a value from the front of a text. -/
abbrev Reader (α : Type) := List Char → Except ReadError (α × List Char)

/-- The blanks of JSON. -/
def isSpace (c : Char) : Bool := c == ' ' || c == '\n' || c == '\t' || c == '\r'

/-- The text behind the blanks at its front. -/
def skipSpace (s : List Char) : List Char := s.dropWhile isSpace

/-- What the value at the front of `s` is, looking no further than needed to tell; `none` where the
text is not JSON that far. -/
def found? (s : List Char) : Option Found :=
  match s with
  | [] => none
  | c :: rest =>
    if c = '[' then some .sequence
    else if c = '{' then some .map
    else if c = '"' then (literal? rest).map fun (chars, _) => .string (String.ofList chars)
    else if "null".toList.isPrefixOf s then some .null
    else if "true".toList.isPrefixOf s then some (.bool true)
    else if "false".toList.isPrefixOf s then some (.bool false)
    else do
      let (literal, _) ← number? s
      match literal.integer? with
      | some n => some (.integer n)
      | none => (literal.doubleText?).map .double

/-- The error where a value of another kind stands at the front of `s`. -/
def wrongKind (expected : Expected) (s : List Char) : ReadError :=
  match found? s with
  | some found => .mismatch (.wrongKind found expected)
  | none => .malformed

/-- Reads a colon. -/
def readColon (s : List Char) : Except ReadError (List Char) :=
  match skipSpace s with
  | ':' :: rest => .ok rest
  | _ => .error .malformed

/-- Reads a string. -/
def readString : Reader String := fun s =>
  match skipSpace s with
  | '"' :: rest =>
    match literal? rest with
    | some (chars, rest) => .ok (String.ofList chars, rest)
    | none => .error .malformed
  | s => .error (wrongKind .text s)

/-! ## Arrays and objects -/

/-- Reads the elements of an array that has some, at most `room` of them, and its closing
bracket. -/
def readItems {α : Type} (item : Reader α) : (room : Nat) → Reader (List α)
  | 0, _ => .error .malformed
  | room + 1, s => do
    let (first, s) ← item s
    match skipSpace s with
    | ',' :: s =>
      let (others, s) ← readItems item room s
      return (first :: others, s)
    | ']' :: s => return ([first], s)
    | _ => .error .malformed

/-- Reads an array of which the opening bracket is read already. -/
def readArray {α : Type} (item : Reader α) : Reader (List α) := fun s =>
  match skipSpace s with
  | ']' :: rest => .ok ([], rest)
  | s => readItems item s.length s

/-- Reads the members of an object that has some, at most `room` of them, and its closing bracket.
`member` is given what the members so far amount to and the key, and reads on behind the key. -/
def readMembers {σ : Type} (member : σ → List LiteralUnit → Reader σ) :
    (room : Nat) → σ → Reader σ
  | 0, _, _ => .error .malformed
  | room + 1, state, s =>
    match skipSpace s with
    | '"' :: s =>
      match units? s with
      | none => .error .malformed
      | some (key, s) => do
        let (state, s) ← member state key s
        match skipSpace s with
        | ',' :: s => readMembers member room state s
        | '}' :: s => return (state, s)
        | _ => .error .malformed
    | _ => .error .malformed

/-- Reads an object of which the opening bracket is read already. -/
def readObject {σ : Type} (member : σ → List LiteralUnit → Reader σ) (state : σ) : Reader σ :=
  fun s => match skipSpace s with
  | '}' :: rest => .ok (state, rest)
  | s => readMembers member s.length state s

/-! ## Values that nobody asks for -/

/-- Reads a value that is neither an array nor an object. -/
def skipScalar : Reader Unit := fun s =>
  match s with
  | [] => .error .malformed
  | c :: rest =>
    if c = '"' then
      match units? rest with
      | some (_, rest) => .ok ((), rest)
      | none => .error .malformed
    else if "null".toList.isPrefixOf s then .ok ((), s.drop 4)
    else if "true".toList.isPrefixOf s then .ok ((), s.drop 4)
    else if "false".toList.isPrefixOf s then .ok ((), s.drop 5)
    else
      match number? s with
      | some (_, rest) => .ok ((), rest)
      | none => .error .malformed

/-- Reads any value, with arrays and objects in it at most `depth` deep, and drops it. -/
def skipWithin : (depth : Nat) → Reader Unit
  | 0, _ => .error .malformed
  | depth + 1, s =>
    match skipSpace s with
    | '[' :: s => do
      let (_, s) ← readArray (skipWithin depth) s
      return ((), s)
    | '{' :: s =>
      readObject (fun _ _ s => do
        let s ← readColon s
        skipWithin depth s) () s
    | s => skipScalar s

/-- Reads any value and drops it. No value is deeper than its text is long. -/
def skipValue : Reader Unit := fun s => skipWithin (s.length + 1) s

/-! ## Whole texts -/

/-- The value that a whole text says, with nothing but blanks around it. -/
def readAll {α : Type} (read : Reader α) (text : String) : Except ReadError α := do
  let (value, rest) ← read text.toList
  match skipSpace rest with
  | [] => return value
  | _ => .error .malformed

end MethodSig.Json
