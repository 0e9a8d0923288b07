/-!
# `Signature` — what a method declaration says

A declaration names a return type and a method, may begin with a visibility keyword, and lists its
parameters as pairs of a type and a name. The fields are plain texts: a signature can be built from
any strings, also from such as no declaration in a source text could have.

The canonical text of a signature has one blank between words and `, ` between parameters.
-/

namespace MethodSig

/-- The visibility keywords. -/
inductive Visibility where
  /-- `public` -/
  | pub
  /-- `protected` -/
  | prot
  /-- `private` -/
  | priv
deriving DecidableEq

namespace Visibility

/-- The keyword as it is written. -/
def keyword : Visibility → String
  | pub => "public"
  | prot => "protected"
  | priv => "private"

/-- The three keywords, in the order in which the grammar tries them. -/
def all : List Visibility := [pub, prot, priv]

/-- The visibility that `word` is the keyword of. -/
def ofKeyword? (word : String) : Option Visibility := all.find? fun v => v.keyword = word

/-- Why `value` cannot be read as a visibility. -/
def unknownMessage (value : String) : String :=
  "`" ++ value ++ "` is not an access modifier (expected public, protected or private)"

@[simp] theorem ofKeyword?_keyword (v : Visibility) : ofKeyword? v.keyword = some v := by
  cases v <;> decide

theorem keyword_of_ofKeyword? {word : String} {v : Visibility} (h : ofKeyword? word = some v) :
    v.keyword = word := by
  simpa using List.find?_some h

end Visibility

/-- A parameter: its type and its name. -/
structure Param where
  /-- The declared type. -/
  type : String
  /-- The name. -/
  name : String
deriving DecidableEq

/-- The parameter as it is declared: type, blank, name. -/
def Param.text (p : Param) : String := p.type ++ " " ++ p.name

/-- What a method declaration says. -/
structure Signature where
  /-- The leading visibility keyword, where there is one. -/
  visibility : Option Visibility := none
  /-- The declared return type. -/
  returnType : String
  /-- The name of the method. -/
  name : String
  /-- The parameters, in the order of their declaration. -/
  params : List Param := []
deriving DecidableEq

namespace Signature

/-- The visibility keyword and the blank behind it, or nothing. -/
def visibilityText : Option Visibility → String
  | none => ""
  | some v => v.keyword ++ " "

/-- The canonical text: `[visibility ]returnType name(type name, type name)`. -/
def canonical (s : Signature) : String :=
  visibilityText s.visibility ++ s.returnType ++ " " ++ s.name ++
    "(" ++ ", ".intercalate (s.params.map Param.text) ++ ")"

end Signature

end MethodSig
