import MethodSig.Text.Basic

/-!
# `Wrapped` — a message in lines of limited length

A message for a reader is written in spans, some of them between ticks, and laid out like prose.
Only words count: the end of a line in a span is a space, but a blank line, or a line that begins
with a space, begins a new line of the message. A line that begins with four spaces is code: what
stands behind them is kept in one, and goes on where the text in front of it has stopped.

A word that does not fit on its line begins a new one, and the white space in front of it is
dropped; a word that is too long for any line is not broken. Nothing fits on a line behind code.

A line is full when its characters and the bytes of the next word, which are as many for ASCII, are
more than the limit.
-/

namespace MethodSig.Text

/-! ## Pieces -/

/-- What a text falls into. -/
inductive Piece where
  /-- Characters that stay together. -/
  | word (w : List Char)
  /-- A space. -/
  | space
  /-- The beginning of a new line. -/
  | newLine
  /-- What stands on a line of code. -/
  | code (w : List Char)
deriving DecidableEq

/-- The pieces of a line with one more character at the front of its first word. -/
def Piece.consWord (c : Char) : List Piece → List Piece
  | .word w :: pieces => .word (c :: w) :: pieces
  | pieces => .word [c] :: pieces

/-- The pieces of a line of prose: its words and the spaces between them. -/
def linePieces : List Char → List Piece
  | [] => []
  | ' ' :: s => .space :: linePieces s
  | c :: s => Piece.consWord c (linePieces s)

/-- The pieces of a line behind a blank one. -/
def blockPieces : List Char → List Piece
  | ' ' :: ' ' :: ' ' :: ' ' :: code => [.code code]
  | line => linePieces line

/-- The pieces of the lines of a text behind its first one. -/
def followingPieces : List (List Char) → List Piece
  | [] => []
  | [[]] => [.space]
  | [] :: line :: lines => .newLine :: (blockPieces line ++ followingPieces lines)
  | (' ' :: ' ' :: ' ' :: ' ' :: code) :: lines => .code code :: followingPieces lines
  | (' ' :: line) :: lines => .newLine :: (linePieces line ++ followingPieces lines)
  | line :: lines => .space :: (linePieces line ++ followingPieces lines)

/-- The first line of a text and the lines behind it. -/
def splitLines : List Char → List Char × List (List Char)
  | [] => ([], [])
  | c :: s =>
    let (line, lines) := splitLines s
    if c = '\n' then ([], line :: lines) else (c :: line, lines)

/-- The pieces of a text. -/
def pieces (s : List Char) : List Piece :=
  linePieces (splitLines s).1 ++ followingPieces (splitLines s).2

/-! ## Lines -/

/-- A text under way. -/
structure Page where
  /-- What has been written. -/
  text : List Char := []
  /-- The columns that are taken on the last line. -/
  column : Nat := 0

namespace Page

/-- Whether a word no longer fits on the last line. -/
def isFull (limit : Nat) (p : Page) (w : List Char) : Bool :=
  !p.text.isEmpty && limit < p.column + utf8Length w

/-- The page on a new line, without the white space at its end. -/
def broken (p : Page) : Page := ⟨trimEnd p.text ++ ['\n'], 0⟩

/-- Writes `w` on the last line, where it takes `columns`. -/
def append (p : Page) (w : List Char) (columns : Nat) : Page := ⟨p.text ++ w, p.column + columns⟩

/-- Writes `w` on a new line if it no longer fits on the last one, where a space is dropped. -/
def place (limit : Nat) (p : Page) (w : List Char) (columns : Nat) : Page :=
  if p.isFull limit w then if w = [' '] then p.broken else p.broken.append w columns
  else p.append w columns

/-- Writes a piece. Code takes more columns than a line has. -/
def write (limit : Nat) (p : Page) : Piece → Page
  | .newLine => ⟨p.text ++ ['\n'], 0⟩
  | .space => p.place limit [' '] 1
  | .word w => p.place limit w w.length
  | .code w => p.place limit w (limit + 1)

end Page

/-! ## Spans -/

/-- A part of a message. -/
inductive Span where
  /-- Plain text. -/
  | plain (s : String)
  /-- A text between ticks, which are not parted from it. -/
  | ticked (s : String)

/-- The mark on both sides of a text that is quoted in a message. -/
def tick : List Char := ['\x60']

/-- Writes a span. -/
def Page.writeSpan (limit : Nat) (p : Page) : Span → Page
  | .plain s => (pieces s.toList).foldl (write limit) p
  | .ticked s => ((pieces s.toList).foldl (write limit) (p.append tick 1)).append tick 1

/-- A message in lines of at most `limit` characters where its words allow that. -/
def wrapped (limit : Nat) (message : List Span) : String :=
  String.ofList (message.foldl (Page.writeSpan limit) {}).text

end MethodSig.Text
