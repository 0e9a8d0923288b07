import MethodSig.Json.Reader
import MethodSig.Json.Value

/-!
# Signatures as JSON

A visibility is written as its keyword, a parameter as an object with the fields `type` and `name`,
and a signature as an object with the fields `accessModifier`, `returnType`, `methodName` and
`arguments`, in this order; the first is left out where there is no visibility.

Reading is more generous. Fields may come in any order, others are passed over, `accessModifier` may
also be `null`, and `arguments` may be left out when there are none. In place of an object an array
of the fields may stand, in the order above.
-/

namespace MethodSig

open Json

/-! ## Writing -/

/-- A visibility as JSON. -/
def Visibility.toJson (v : Visibility) : Json := .string v.keyword

/-- A parameter as JSON. -/
def Param.toJson (p : Param) : Json := .object [("type", .string p.type), ("name", .string p.name)]

/-- A signature as JSON. -/
def Signature.toJson (s : Signature) : Json :=
  let visibility := match s.visibility with
    | none => []
    | some v => [("accessModifier", v.toJson)]
  .object (visibility ++
    [("returnType", .string s.returnType), ("methodName", .string s.name),
      ("arguments", .array (s.params.map Param.toJson))])

/-! ## Reading a visibility -/

/-- Reads a visibility keyword. -/
def Visibility.read : Reader Visibility := fun s => do
  let (word, s) ← readString s
  match ofKeyword? word with
  | some v => return (v, s)
  | none => .error (.mismatch (.unknownVisibility word))

/-- Reads a visibility keyword or `null`. -/
def Visibility.readOptional : Reader (Option Visibility) := fun s =>
  match skipSpace s with
  | 'n' :: rest =>
    if "ull".toList.isPrefixOf rest then .ok (none, rest.drop 3) else .error .malformed
  | s => do
    let (v, s) ← Visibility.read s
    return (some v, s)

/-! ## Fields -/

/-- Reads the value of a field that is known by `name`, behind its key. `old` is its value if the
field was given before. -/
def readField {α : Type} (name : String) (old : Option α) (read : Reader α) : Reader (Option α) :=
  fun s => do
    if old.isSome then .error (.mismatch (.duplicateField name))
    let s ← readColon s
    let (value, s) ← read s
    return (some value, s)

/-- Passes over the value of an unknown field, behind its key. -/
def skipField : Reader Unit := fun s => do
  let s ← readColon s
  skipValue s

/-- The value of a field that has to be given. -/
def required {α : Type} (name : String) : Option α → Except ReadError α
  | some value => .ok value
  | none => .error (.mismatch (.missingField name))

/-- Reads the next element of an array that stands in place of the fields; `none` where the array
ends instead, which is left to be read. -/
def readElement {α : Type} (isFirst : Bool) (read : Reader α) : Reader (Option α) := fun s =>
  match skipSpace s with
  | ']' :: s => .ok (none, ']' :: s)
  | s => do
    let s ← if isFirst then .ok s else
      match s with
      | ',' :: s => .ok s
      | _ => .error .malformed
    let (value, s) ← read s
    return (some value, s)

/-- The element with the given index of an array that stands in place of the fields. -/
def requiredElement {α : Type} (index : Nat) (expected : Expected) :
    Option α → Except ReadError α
  | some value => .ok value
  | none => .error (.mismatch (.tooShort index expected))

/-- Reads the end of an array that stands in place of the fields. -/
def readArrayEnd (s : List Char) : Except ReadError (List Char) :=
  match skipSpace s with
  | ']' :: rest => .ok rest
  | _ => .error .malformed

/-! ## Reading a parameter -/

/-- The fields of a parameter that were given so far. -/
structure Param.Fields where
  /-- The field `type`. -/
  type : Option String := none
  /-- The field `name`. -/
  name : Option String := none

/-- Reads a member of a parameter behind its key. -/
def Param.readMember (given : Fields) (key : List LiteralUnit) : Reader Fields := fun s =>
  match (meaning? key).map String.ofList with
  | none => .error .malformed
  | some key => do
    if key = "type" then
      let (type, s) ← readField key given.type readString s
      return ({ given with type }, s)
    else if key = "name" then
      let (name, s) ← readField key given.name readString s
      return ({ given with name }, s)
    else
      let (_, s) ← skipField s
      return (given, s)

/-- Reads a parameter from an object of which the opening bracket is read already. -/
def Param.readObject : Reader Param := fun s => do
  let (given, s) ← Json.readObject readMember {} s
  let type ← required "type" given.type
  let name ← required "name" given.name
  return (⟨type, name⟩, s)

/-- Reads a parameter from an array of which the opening bracket is read already. -/
def Param.readElements : Reader Param := fun s => do
  let (type, s) ← readElement true readString s
  let type ← requiredElement 0 .param type
  let (name, s) ← readElement false readString s
  let name ← requiredElement 1 .param name
  let s ← readArrayEnd s
  return (⟨type, name⟩, s)

/-- Reads a parameter. -/
def Param.read : Reader Param := fun s =>
  match skipSpace s with
  | '{' :: s => readObject s
  | '[' :: s => readElements s
  | s => .error (wrongKind .param s)

/-- Reads a list of parameters. -/
def Param.readList : Reader (List Param) := fun s =>
  match skipSpace s with
  | '[' :: s => readArray Param.read s
  | s => .error (wrongKind .list s)

/-! ## Reading a signature -/

/-- The fields of a signature that were given so far. -/
structure Signature.Fields where
  /-- The field `accessModifier`. -/
  visibility : Option (Option Visibility) := none
  /-- The field `returnType`. -/
  returnType : Option String := none
  /-- The field `methodName`. -/
  name : Option String := none
  /-- The field `arguments`. -/
  params : Option (List Param) := none

/-- Reads a member of a signature behind its key. -/
def Signature.readMember (given : Fields) (key : List LiteralUnit) : Reader Fields := fun s =>
  match (meaning? key).map String.ofList with
  | none => .error .malformed
  | some key => do
    if key = "accessModifier" then
      let (visibility, s) ← readField key given.visibility Visibility.readOptional s
      return ({ given with visibility }, s)
    else if key = "returnType" then
      let (returnType, s) ← readField key given.returnType readString s
      return ({ given with returnType }, s)
    else if key = "methodName" then
      let (name, s) ← readField key given.name readString s
      return ({ given with name }, s)
    else if key = "arguments" then
      let (params, s) ← readField key given.params Param.readList s
      return ({ given with params }, s)
    else
      let (_, s) ← skipField s
      return (given, s)

/-- Reads a signature from an object of which the opening bracket is read already. -/
def Signature.readObject : Reader Signature := fun s => do
  let (given, s) ← Json.readObject readMember {} s
  let returnType ← required "returnType" given.returnType
  let name ← required "methodName" given.name
  return (⟨given.visibility.join, returnType, name, given.params.getD []⟩, s)

/-- Reads a signature from an array of which the opening bracket is read already. -/
def Signature.readElements : Reader Signature := fun s => do
  let (visibility, s) ← readElement true Visibility.readOptional s
  let (returnType, s) ← readElement false readString s
  let returnType ← requiredElement 1 .signature returnType
  let (name, s) ← readElement false readString s
  let name ← requiredElement 2 .signature name
  let (params, s) ← readElement false Param.readList s
  let s ← readArrayEnd s
  return (⟨visibility.join, returnType, name, params.getD []⟩, s)

/-- Reads a signature. -/
def Signature.read : Reader Signature := fun s =>
  match skipSpace s with
  | '{' :: s => readObject s
  | '[' :: s => readElements s
  | s => .error (wrongKind .signature s)

/-! ## Whole texts -/

/-- The visibility that a JSON text says. -/
def Visibility.ofJson (text : String) : Except ReadError Visibility := readAll Visibility.read text

/-- The parameter that a JSON text says. -/
def Param.ofJson (text : String) : Except ReadError Param := readAll Param.read text

/-- The signature that a JSON text says. -/
def Signature.ofJson (text : String) : Except ReadError Signature := readAll Signature.read text

end MethodSig
