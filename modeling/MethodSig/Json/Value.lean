/-!
# `Json` — values and their text

A JSON value and how it is written. A `Layout` says what stands between the parts: nothing in the
compact form; in the pretty form a line for every element and member, two further spaces for each
level, and a space behind the colon of a key. An empty array is `[]` in both.

In a string only what has to be escaped is: the quote, the backslash and the controls below U+0020.
-/

namespace MethodSig

/-- A JSON value. Members of an object keep their order. -/
inductive Json where
  | null
  | bool (b : Bool)
  /-- A number, as it is written. -/
  | number (text : String)
  | string (s : String)
  | array (items : List Json)
  | object (members : List (String × Json))

namespace Json

/-! ## Strings -/

/-- How one character is written inside a string. -/
def escapeChar (c : Char) : List Char :=
  if c = '"' then ['\\', '"']
  else if c = '\\' then ['\\', '\\']
  else if c = '\x08' then ['\\', 'b']
  else if c = '\t' then ['\\', 't']
  else if c = '\n' then ['\\', 'n']
  else if c = '\x0c' then ['\\', 'f']
  else if c = '\r' then ['\\', 'r']
  else if c.toNat < 0x20 then
    ['\\', 'u', '0', '0', Nat.digitChar (c.toNat / 16), Nat.digitChar (c.toNat % 16)]
  else [c]

/-- The text of a string: its characters between double quotes. -/
def stringText (s : String) : List Char := '"' :: (s.toList.flatMap escapeChar ++ ['"'])

/-! ## Layout -/

/-- What stands between the parts of a value. -/
structure Layout where
  /-- In front of an element at the given depth, and of a closing bracket. -/
  lineBreak : Nat → List Char
  /-- Between a key and its value. -/
  colon : List Char

/-- Nothing between the parts. -/
def Layout.compact : Layout := ⟨fun _ => [], [':']⟩

/-- A line for every element, indented by two spaces a level. -/
def Layout.pretty : Layout := ⟨fun depth => '\n' :: List.replicate (2 * depth) ' ', [':', ' ']⟩

/-- The break in front of a closing bracket; there is none in an empty pair of brackets. -/
def Layout.closing (l : Layout) (depth : Nat) (isEmpty : Bool) : List Char :=
  if isEmpty then [] else l.lineBreak depth

mutual

/-- The text of a value that stands at the given depth. -/
def render (l : Layout) (depth : Nat) : Json → List Char
  | null => "null".toList
  | bool b => (toString b).toList
  | number text => text.toList
  | string s => stringText s
  | array items =>
    '[' :: (renderItems l (depth + 1) [] items ++ l.closing depth items.isEmpty ++ [']'])
  | object members =>
    '{' :: (renderMembers l (depth + 1) [] members ++ l.closing depth members.isEmpty ++ ['}'])

/-- The elements of an array, with `separator` in front of the first and commas between them. -/
def renderItems (l : Layout) (depth : Nat) (separator : List Char) : List Json → List Char
  | [] => []
  | item :: items =>
    separator ++ l.lineBreak depth ++ render l depth item ++ renderItems l depth [','] items

/-- The members of an object, with `separator` in front of the first and commas between them. -/
def renderMembers (l : Layout) (depth : Nat) (separator : List Char) :
    List (String × Json) → List Char
  | [] => []
  | (key, value) :: members =>
    separator ++ l.lineBreak depth ++ stringText key ++ l.colon ++ render l depth value ++
      renderMembers l depth [','] members

end

/-- The text on one line, without a blank between the parts. -/
def compact (v : Json) : String := String.ofList (v.render .compact 0)

/-- The text over several lines, indented. -/
def pretty (v : Json) : String := String.ofList (v.render .pretty 0)

end Json

end MethodSig
