import MethodSig.CharSet

/-!
# `Splitter` — cutting a text at separator characters

A splitter is a set of separator characters. It is built from delimiter strings, each character of
which separates on its own: the delimiter `"ab"` cuts at `a` and at `b`, not at the word `ab`. The
tokens of a text are what stands between separators; a run of separators is one gap, so no token is
empty.

The tokens are given twice: `split` cuts the whole text at once, `next?` finds one token and the
rest of the text, for a caller that wants only the first few.
-/

namespace MethodSig

/-- A way to cut texts: the characters that separate tokens. -/
structure Splitter where
  /-- The characters that separate. -/
  separators : CharSet
deriving DecidableEq

namespace Splitter

/-- The splitter that cuts at every character of every delimiter string. -/
def ofDelimiters (delimiters : List String) : Splitter :=
  ⟨.ofList (delimiters.flatMap String.toList)⟩

/-- Whether `c` separates tokens. -/
def isSeparator (s : Splitter) (c : Char) : Bool := s.separators.contains c

/-! ## All tokens at once -/

/-- The text cut at every single separator; neighbouring separators leave empty pieces. -/
def pieces (s : Splitter) (source : List Char) : List (List Char) := source.splitOnP s.isSeparator

/-- The tokens of `source` as lists of characters: its pieces that are not empty. -/
def tokens (s : Splitter) (source : List Char) : List (List Char) :=
  (s.pieces source).filter fun piece => !piece.isEmpty

/-- The tokens of `source`, in order. -/
def split (s : Splitter) (source : String) : List String :=
  (s.tokens source.toList).map String.ofList

/-! ## One token at a time -/

/-- The first token of `source` and the text behind it; `none` when only separators are left. -/
def next? (s : Splitter) (source : List Char) : Option (List Char × List Char) :=
  let text := source.dropWhile s.isSeparator
  match text.takeWhile fun c => !s.isSeparator c with
  | [] => none
  | token => some (token, text.dropWhile fun c => !s.isSeparator c)

/-- The first `n` tokens of `source`, reading no further than they reach. -/
def firstTokens (s : Splitter) : Nat → List Char → List (List Char)
  | 0, _ => []
  | n + 1, source =>
    match s.next? source with
    | none => []
    | some (token, rest) => token :: s.firstTokens n rest

/-- The first `n` tokens of `source`, found on demand. -/
def take (s : Splitter) (n : Nat) (source : String) : List String :=
  (s.firstTokens n source.toList).map String.ofList

end Splitter

end MethodSig
