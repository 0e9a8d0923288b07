import MethodSig.Json.Reader
import MethodSig.Json.Value
import MethodSig.Proofs.Runs

/-!
# `Proofs.Json.Document` — the texts of a JSON value

The grammar of JSON documents, as a relation between values and texts: `Writes v t` says that
`t` is a text of the value `v`. It says nothing about reading. A value has many texts: blanks may stand
around every part, and a character may be escaped in several ways. The members of an object are part of its
value in the order in which they stand, also those whose keys are equal.

A number counts as it is written. A string is a sequence of characters, so an escaped surrogate has its
place in a text only together with its partner; `SurrogatesPaired` says of any text that this is so
throughout.
-/

namespace MethodSig.Json

/-! ## Blanks -/

/-- Blanks of JSON, or nothing. -/
def IsSpaces (w : List Char) : Prop := ∀ c ∈ w, isSpace c = true

/-! ## Numbers -/

/-- Digits, at least one. -/
abbrev IsDigits : List Char → Prop := IsRun Char.isDigit

/-- A whole part: a zero alone, or digits that begin with another. -/
inductive IsWhole : List Char → Prop
  | zero : IsWhole ['0']
  | digits {ds : List Char} (h : IsDigits ds) (hzero : ds.head? ≠ some '0') : IsWhole ds

/-- A fraction, or nothing. -/
inductive IsFraction : List Char → Prop
  | absent : IsFraction []
  | present {ds : List Char} (h : IsDigits ds) : IsFraction ('.' :: ds)

/-- An exponent, or nothing. -/
inductive IsExponent : List Char → Prop
  | absent : IsExponent []
  | present {e : Char} {sign ds : List Char} (he : e = 'e' ∨ e = 'E')
      (hsign : sign = [] ∨ sign = ['+'] ∨ sign = ['-']) (h : IsDigits ds) : IsExponent (e :: (sign ++ ds))

/-- A number. -/
inductive IsNumber : List Char → Prop
  | mk {sign whole fraction exponent : List Char} (hsign : sign = [] ∨ sign = ['-'])
      (hwhole : IsWhole whole) (hfraction : IsFraction fraction) (hexponent : IsExponent exponent) :
      IsNumber (sign ++ (whole ++ (fraction ++ exponent)))

/-! ## Strings -/

/-- The letters that may stand behind a backslash, with the characters that they escape. -/
def letterEscapes : List (Char × Char) :=
  [('"', '"'), ('\\', '\\'), ('/', '/'), ('b', '\x08'), ('f', '\x0c'), ('n', '\n'), ('r', '\r'),
    ('t', '\t')]

/-- The text of one character inside a string: itself, unless it is a quote, a backslash or a control;
    or an escape by a letter, by its code unit, or by its two code units. -/
inductive WritesChar : Char → List Char → Prop
  | plain {c : Char} (hcontrol : 0x20 ≤ c.toNat) (hquote : c ≠ '"') (hbackslash : c ≠ '\\') :
      WritesChar c [c]
  | letter {c l : Char} (h : (l, c) ∈ letterEscapes) : WritesChar c ['\\', l]
  | code {c : Char} {ds : List Char} (h : code? ds = some (c.toNat, [])) :
      WritesChar c ('\\' :: 'u' :: ds)
  | pair {c : Char} {m n : Nat} {ds es : List Char} (hm : code? ds = some (m, []))
      (hn : code? es = some (n, [])) (hhigh : isHighSurrogate m = true) (hlow : isLowSurrogate n = true)
      (hc : c.toNat = 0x10000 + (m - 0xD800) * 0x400 + (n - 0xDC00)) :
      WritesChar c ('\\' :: 'u' :: (ds ++ '\\' :: 'u' :: es))

/-- The text of characters inside a string. -/
inductive WritesChars : List Char → List Char → Prop
  | nil : WritesChars [] []
  | cons {c : Char} {cs t ts : List Char} (h : WritesChar c t) (hs : WritesChars cs ts) :
      WritesChars (c :: cs) (t ++ ts)

/-- **No escaped surrogate stands alone.** The text is read from the left; a backslash takes what it
    escapes with it. -/
inductive SurrogatesPaired : List Char → Prop
  | nil : SurrogatesPaired []
  | plain {c : Char} {s : List Char} (hc : c ≠ '\\') (h : SurrogatesPaired s) : SurrogatesPaired (c :: s)
  | letter {c : Char} {s : List Char} (hc : c ≠ 'u') (h : SurrogatesPaired s) :
      SurrogatesPaired ('\\' :: c :: s)
  | code {n : Nat} {s rest : List Char} (hn : code? s = some (n, rest))
      (hhigh : isHighSurrogate n = false) (hlow : isLowSurrogate n = false)
      (h : SurrogatesPaired rest) : SurrogatesPaired ('\\' :: 'u' :: s)
  | pair {m n : Nat} {s t rest : List Char} (hm : code? s = some (m, '\\' :: 'u' :: t))
      (hn : code? t = some (n, rest)) (hhigh : isHighSurrogate m = true)
      (hlow : isLowSurrogate n = true) (h : SurrogatesPaired rest) :
      SurrogatesPaired ('\\' :: 'u' :: s)
  | noCode {s : List Char} (hs : code? s = none) (h : SurrogatesPaired s) :
      SurrogatesPaired ('\\' :: 'u' :: s)
  | last : SurrogatesPaired ['\\']

/-! ## Arrays and objects -/

/-- The text of some things with blanks around each and a comma between one and the next. There is at
    least one. -/
inductive Separated {α : Type} (writes : α → List Char → Prop) : List α → List Char → Prop
  | single {x : α} {a t b : List Char} (ha : IsSpaces a) (h : writes x t) (hb : IsSpaces b) :
      Separated writes [x] (a ++ (t ++ b))
  | cons {x : α} {xs : List α} {a t b ts : List Char} (ha : IsSpaces a) (h : writes x t)
      (hb : IsSpaces b) (hs : Separated writes xs ts) :
      Separated writes (x :: xs) (a ++ (t ++ (b ++ ',' :: ts)))

/-- What stands between a pair of brackets: what is in them, or blanks if there is nothing. -/
inductive Listed {α : Type} (writes : α → List Char → Prop) : List α → List Char → Prop
  | empty {w : List Char} (hw : IsSpaces w) : Listed writes [] w
  | items {x : α} {xs : List α} {t : List Char} (h : Separated writes (x :: xs) t) :
      Listed writes (x :: xs) t

/-- The text of a member: its key, a colon and its value. -/
inductive WritesMember (writes : Json → List Char → Prop) : String × Json → List Char → Prop
  | mk {key : String} {v : Json} {k a b t : List Char} (hkey : WritesChars key.toList k)
      (ha : IsSpaces a) (hb : IsSpaces b) (hv : writes v t) :
      WritesMember writes (key, v) ('"' :: (k ++ '"' :: (a ++ ':' :: (b ++ t))))

/-- **The texts of a value.** -/
inductive Writes : Json → List Char → Prop
  | null : Writes .null "null".toList
  | bool {b : Bool} : Writes (.bool b) (toString b).toList
  | number {text : String} (h : IsNumber text.toList) : Writes (.number text) text.toList
  | string {s : String} {t : List Char} (h : WritesChars s.toList t) :
      Writes (.string s) ('"' :: (t ++ ['"']))
  | array {items : List Json} {t : List Char} (h : Listed Writes items t) :
      Writes (.array items) ('[' :: (t ++ [']']))
  | object {members : List (String × Json)} {t : List Char} (h : Listed (WritesMember Writes) members t) :
      Writes (.object members) ('{' :: (t ++ ['}']))

/-- A whole document: a value with nothing but blanks around it. -/
def IsDocument (v : Json) (s : List Char) : Prop :=
  ∃ a t b, IsSpaces a ∧ Writes v t ∧ IsSpaces b ∧ s = a ++ (t ++ b)

end MethodSig.Json
