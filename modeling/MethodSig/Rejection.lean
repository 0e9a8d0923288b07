import MethodSig.Expectation
import MethodSig.Text.Basic

/-!
# `Rejection` — a text that holds no signature

`Signature.parse` reads the signature that a text holds or rejects the text. A rejection keeps the
text and says where the search gave up, and which terminals were expected there.
-/

namespace MethodSig

/-- A place in a text, as an editor counts it. -/
structure Place where
  /-- The bytes before it, in UTF-8. -/
  offset : Nat
  /-- Its line, counted from one. -/
  line : Nat
  /-- Its column, counted in characters from one. -/
  column : Nat
deriving DecidableEq

/-- The place behind the text `before`. Lines end at line feeds. -/
def Place.behind (before : List Char) : Place where
  offset := Text.utf8Length before
  line := 1 + before.count '\n'
  column := 1 + (before.reverse.takeWhile (· != '\n')).length

/-- Why a text was rejected. -/
structure Rejection where
  /-- The rejected text. -/
  input : String
  /-- Where the search gave up. -/
  place : Place
  /-- What could have stood there. -/
  expected : List Terminal
deriving DecidableEq

namespace Rejection

/-- The rejection of a text that holds no signature. -/
def ofText (input : String) : Rejection :=
  let misses := searchMisses input.toList
  { input
    place := .behind (input.toList.take (input.toList.length - leftAtFurthest misses))
    expected := expectedAtFurthest misses }

/-- The expected terminals in words. -/
def expectedText : List Terminal → String
  | [] => "<unreported>"
  | [t] => t.text
  | ts => "one of " ++ ", ".intercalate (ts.map Terminal.text)

/-- Where the search gave up and what was expected there. -/
def detail (r : Rejection) : String :=
  "error at " ++ toString r.place.line ++ ":" ++ toString r.place.column ++
    ": expected " ++ expectedText r.expected

/-- What is wrong with the text. -/
def message (r : Rejection) : String :=
  "`" ++ r.input ++ "` is not a method signature of the form " ++
    "`[accessModifier] returnType methodName(argumentType argumentName, ...)`"

end Rejection

/-- The signature that `input` holds, or why there is none. -/
def Signature.parse (input : String) : Except Rejection Signature :=
  match findSignature? input.toList with
  | some found => .ok found
  | none => .error (.ofText input)

end MethodSig
