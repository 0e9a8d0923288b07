import MethodSig.Grammar

/-!
# `Expectation` — what the grammar was waiting for

When no signature is found, the message says where the search gave up and what could have stood
there. Each rule of the grammar asks for terminals: a keyword, a word character, a parenthesis, any
character at all. A *miss* is a terminal that was asked for and was not there. The functions below
list the misses of each rule, following it step by step as `MethodSig.Grammar` does.

Two kinds of misses are not counted: those of blanks, which may stand anywhere and would say
nothing, and those of an attempt that only asks whether a signature begins here. Of the others the
furthest matter: the *expected* terminals are those missed at the furthest place that was reached.
-/

namespace MethodSig

/-- What a rule of the grammar can ask for. -/
inductive Terminal where
  /-- A visibility keyword. -/
  | keyword (v : Visibility)
  /-- A word character. -/
  | wordChar
  /-- The parenthesis that opens a parameter list. -/
  | openParen
  /-- The parenthesis that closes a parameter list. -/
  | closeParen
  /-- Any character of a parameter list. -/
  | paramChar
  /-- Any character. -/
  | anyChar
deriving DecidableEq

/-- How a terminal is shown. -/
def Terminal.text : Terminal → String
  | keyword v => "\"" ++ v.keyword ++ "\""
  | wordChar => "['a'..='z' | 'A'..='Z' | '0'..='9' | '_']"
  | openParen => "\"(\""
  | closeParen => "\")\""
  | paramChar => "[^ ')']"
  | anyChar => "[_]"

/-- A terminal that was asked for and was not there. -/
structure Miss where
  /-- What was asked for. -/
  terminal : Terminal
  /-- The text from the place where it was asked for. -/
  rest : List Char

/-! ## Misses of each rule -/

/-- A word ends where no further word character is. -/
def wordMisses (s : List Char) : List Miss := [⟨.wordChar, s.dropWhile isWordChar⟩]

/-- Misses in reading a pair. -/
def pairMisses (s : List Char) : List Miss :=
  wordMisses s ++
    match (word? s).bind fun (_, rest) => blanks? rest with
    | none => []
    | some (_, rest) => wordMisses rest

/-- Misses in reading a parameter list. -/
def paramsMisses (s : List Char) : List Miss :=
  pairMisses s ++
    match _h : pair? s with
    | some (_, rest) => paramsMisses rest
    | none =>
      match s with
      | [] => [⟨.paramChar, []⟩]
      | c :: rest => if c == ')' then [⟨.paramChar, c :: rest⟩] else paramsMisses rest
termination_by s.length
decreasing_by
  · exact length_lt_of_pair? _h
  · simp

/-- Misses in reading a declaration. -/
def declarationMisses (s : List Char) : List Miss :=
  pairMisses s ++
    match pair? s with
    | none => []
    | some (_, '(' :: rest) =>
      paramsMisses rest ++
        match (paramsUntil (· == ')') rest).2 with
        | ')' :: _ => []
        | rest => [⟨.closeParen, rest⟩]
    | some (_, rest) => [⟨.openParen, rest⟩]

/-- Misses in reading a visibility keyword: those that were tried before the one that is there. -/
def visibilityMisses (s : List Char) : List Miss :=
  (Visibility.all.takeWhile fun v => !v.keyword.toList.isPrefixOf s).map fun v => ⟨.keyword v, s⟩

/-- Misses in reading a visibility keyword, blanks and a declaration. -/
def visibleDeclarationMisses (s : List Char) : List Miss :=
  visibilityMisses s ++
    match (visibility? s).bind fun (_, rest) => blanks? rest with
    | none => []
    | some (_, rest) => declarationMisses rest

/-- Misses in reading a signature: of the first way, and of the second where the first fails. -/
def signatureMisses (s : List Char) : List Miss :=
  visibleDeclarationMisses s ++
    match visibleDeclaration? s with
    | some _ => []
    | none => declarationMisses s

/-- Misses in the whole search. A position where no signature begins is passed over without a trace;
at the end of the text there is neither a further character to pass over nor a signature. Behind a
signature every character is passed over, up to the end. -/
def searchMisses : List Char → List Miss
  | [] => ⟨.anyChar, []⟩ :: signatureMisses []
  | c :: rest =>
    match signature? (c :: rest) with
    | some _ => signatureMisses (c :: rest) ++ [⟨.anyChar, []⟩]
    | none => searchMisses rest

/-! ## The furthest misses -/

/-- How many characters are left where the furthest misses are. -/
def leftAtFurthest : List Miss → Nat
  | [] => 0
  | m :: ms => ms.foldl (fun left m => min left m.rest.length) m.rest.length

/-- `t` put at its place among terminals in the order of their texts, unless it is there already. -/
def placeTerminal (t : Terminal) : List Terminal → List Terminal
  | [] => [t]
  | u :: rest =>
    if t = u then u :: rest
    else if t.text < u.text then t :: u :: rest
    else u :: placeTerminal t rest

/-- The terminals missed at the furthest place, each once, in the order of their texts. -/
def expectedAtFurthest (ms : List Miss) : List Terminal :=
  let furthest := ms.filter fun m => m.rest.length == leftAtFurthest ms
  (furthest.map (·.terminal)).foldr placeTerminal []

end MethodSig
