/-!
# `Text` — the size of a text, white space, trimming and letter case

The size of a text is counted in bytes where it is shown to an editor or laid out.

A setting is read without regard to the white space around it and to the case of its letters. White
space is the Unicode property `White_Space`, so a no-break or ideographic space counts too; letter
case is that of the ASCII letters alone, so no other letter can be taken for one of them.
-/

namespace MethodSig.Text

/-- The bytes that a text takes in UTF-8. -/
def utf8Length : List Char → Nat
  | [] => 0
  | c :: s => c.utf8Size + utf8Length s

/-- The Unicode property `White_Space`. -/
def isWhiteSpace (c : Char) : Bool :=
  let n := c.toNat
  (0x9 ≤ n && n ≤ 0xD) || n == 0x20 || n == 0x85 || n == 0xA0 || n == 0x1680 ||
    (0x2000 ≤ n && n ≤ 0x200A) || n == 0x2028 || n == 0x2029 || n == 0x202F || n == 0x205F ||
    n == 0x3000

/-- `s` without the white space at its start. -/
def trimStart (s : List Char) : List Char := s.dropWhile isWhiteSpace

/-- `s` without the white space at its end. -/
def trimEnd (s : List Char) : List Char := (s.reverse.dropWhile isWhiteSpace).reverse

/-- `s` without the white space at both ends. -/
def trim (s : List Char) : List Char := trimEnd (trimStart s)

/-- `s` with its ASCII capitals made small. -/
def asciiLower (s : List Char) : List Char := s.map Char.toLower

/-- How a setting is compared with the words it may be: trimmed, and in small letters. -/
def normalized (s : String) : String := String.ofList (asciiLower (trim s.toList))

/-- Whether a setting says nothing: it is empty or white space only. -/
def isBlankText (s : String) : Bool := (trim s.toList).isEmpty

end MethodSig.Text
