import MethodSig.Text.Glyph

/-!
# `Quoted` — a text on one line between double quotes

Quoting makes any text safe to put into one line of a log, and readable back: the quote, the
backslash and the usual controls get a backslash and a letter, every other character without a glyph
of its own is written by its number, and everything else stands as it is.
-/

namespace MethodSig.Text

/-- The digits of `n` in base sixteen, small letters, without leading zeros. -/
def hexDigits (n : Nat) : List Char := Nat.toDigits 16 n

/-- A character by its number: `\u`, then its code point in base sixteen between braces. -/
def numbered (c : Char) : List Char := '\\' :: 'u' :: '\x7b' :: (hexDigits c.toNat ++ ['\x7d'])

/-- How one character is written inside quotes. -/
def quoteChar (c : Char) : List Char :=
  if c = '\x00' then ['\\', '0']
  else if c = '\t' then ['\\', 't']
  else if c = '\n' then ['\\', 'n']
  else if c = '\r' then ['\\', 'r']
  else if c = '"' then ['\\', '"']
  else if c = '\\' then ['\\', '\\']
  else if hasGlyph c then [c]
  else numbered c

/-- The text inside the quotes. -/
def quoteChars (s : List Char) : List Char := s.flatMap quoteChar

/-- `s` between double quotes, on one line. -/
def quoted (s : String) : String := String.ofList ('"' :: (quoteChars s.toList ++ ['"']))

end MethodSig.Text
