import MethodSig.Text.Columns
import MethodSig.Text.Emoji

/-!
# `Onset` — what a text begins with, for the character in front of it

Some characters are not drawn beside what follows them but become one picture or one letter with
it: emoji that are joined into a family or a flag, and the ligatures of some scripts. So the columns
of a text are counted from its end, and of what has been counted one remembers the `Onset`: that
with which a further character in front could fuse.

One column may still be *held* by an onset. It is taken back if the next character fuses with it,
as the Khmer sign *coeng* does, which puts the letter behind it below the letter before it.

A character that only selects a style is remembered as a `Selector` for the character before it.
-/

namespace MethodSig.Text

/-! ## Letters that fuse -/

/-- The forms of the Arabic letter *lam*. -/
def lams : Ranges :=
  [(0x644, 0x644), (0x6B5, 0x6B8), (0x76A, 0x76A), (0x8A6, 0x8A6), (0x8C7, 0x8C7)]

/-- The forms of the Arabic letter *alef*. -/
def alefs : Ranges :=
  [(0x622, 0x623), (0x625, 0x625), (0x627, 0x627), (0x671, 0x673), (0x675, 0x675), (0x773, 0x774),
    (0x870, 0x882)]

/-- The consonants of Tifinagh. -/
def tifinaghConsonants : Ranges := [(0x2D31, 0x2D65), (0x2D6F, 0x2D6F)]

/-- The letters of Khmer that can stand below another one. -/
def khmerSubscripts : Ranges :=
  [(0x1780, 0x1782), (0x1784, 0x1787), (0x1789, 0x178C), (0x178E, 0x1793), (0x1795, 0x1798),
    (0x179B, 0x179D), (0x17A0, 0x17A0), (0x17A2, 0x17A2), (0x17A7, 0x17A7), (0x17AB, 0x17AC),
    (0x17AF, 0x17AF)]

/-- Marks that can be ignored, and so do not keep letters apart. -/
def ignorableMarks : Ranges :=
  [(0x34F, 0x34F), (0x17B4, 0x17B5), (0x180B, 0x180D), (0x180F, 0x180F), (0xFE00, 0xFE0F),
    (0xE0100, 0xE01EF)]

/-- Characters drawn in no column that keep letters apart, in increasing order. -/
def separators : Ranges :=
  [(0x605, 0x605), (0x890, 0x891), (0x8E2, 0x8E2), (0x9BE, 0x9BE), (0x9D7, 0x9D7), (0xB3E, 0xB3E),
    (0xB57, 0xB57), (0xBBE, 0xBBE), (0xBD7, 0xBD7), (0xCC0, 0xCC0), (0xCC2, 0xCC2), (0xCC7, 0xCC8),
    (0xCCA, 0xCCB), (0xCD5, 0xCD6), (0xD3E, 0xD3E), (0xD4E, 0xD4E), (0xD57, 0xD57), (0xDCF, 0xDCF),
    (0xDDF, 0xDDF), (0x1160, 0x11FF), (0x1715, 0x1715), (0x1734, 0x1734), (0x180E, 0x180E),
    (0x1B35, 0x1B35), (0x1B3B, 0x1B3B), (0x1B3D, 0x1B3D), (0x1B43, 0x1B44), (0x1BAA, 0x1BAA),
    (0x1BF2, 0x1BF3), (0x200C, 0x200D), (0x2065, 0x2069), (0x302E, 0x302F), (0x3164, 0x3164),
    (0xA8FA, 0xA8FA), (0xA953, 0xA953), (0xA9C0, 0xA9C0), (0xD7B0, 0xD7C6), (0xD7CB, 0xD7FB),
    (0xFFA0, 0xFFA0), (0xFFF0, 0xFFF8), (0x111C0, 0x111C0), (0x111C2, 0x111C3), (0x11235, 0x11235),
    (0x1133E, 0x1133E), (0x1134D, 0x1134D), (0x11357, 0x11357), (0x113B8, 0x113B8),
    (0x113C2, 0x113C2), (0x113C5, 0x113C5), (0x113C7, 0x113C9), (0x113CF, 0x113CF),
    (0x113D1, 0x113D1), (0x114B0, 0x114B0), (0x114BD, 0x114BD), (0x115AF, 0x115AF),
    (0x116B6, 0x116B6), (0x11930, 0x11930), (0x1193D, 0x1193D), (0x1193F, 0x1193F),
    (0x11941, 0x11941), (0x11A84, 0x11A89), (0x11D46, 0x11D46), (0x11F02, 0x11F02),
    (0x11F41, 0x11F41), (0x16FF0, 0x16FF1), (0x1D165, 0x1D166), (0x1D16D, 0x1D172),
    (0x1D250, 0x1D252), (0x1D25F, 0x1D25F), (0x1D280, 0x1D281), (0xE0000, 0xE0000),
    (0xE0002, 0xE001F), (0xE0080, 0xE00FF), (0xE01F0, 0xE0FFF)]

/-- Whether *lam* and *alef* fuse across `c`. -/
def isTransparent (c : Char) : Bool := columns c == 0 && !separators.contains c

/-- The joiner, an invisible character that asks its neighbours to become one. -/
def joiner : Char := '\u200D'

/-! ## Onsets -/

/-- That with which a character in front could fuse. Where an onset is `joined`, there is a joiner
in front of its letter already. -/
inductive Onset where
  /-- Nothing. -/
  | plain
  /-- The Arabic letter *alef*, which fuses with a *lam*. -/
  | alef
  /-- The Hebrew letter *lamed*, which fuses with an *alef* if it is joined. -/
  | lamed (joined : Bool)
  /-- The Buginese letter *ya*, which fuses with the vowel sign *i* if it is joined. -/
  | ya (joined : Bool)
  /-- The Buginese vowel sign *i* and *ya*, which fuse with an *a*. -/
  | vowelYa
  /-- A Tifinagh consonant, which fuses with another one if it is joined. -/
  | consonant (joined : Bool)
  /-- The Tifinagh sign that joins consonants, and a consonant. -/
  | joiningSign
  /-- A tone of Lisu, which fuses with another one. -/
  | tone
  /-- The Old Turkic letter *i*, which fuses with an *ng* if it is joined. -/
  | orkhonI (joined : Bool)
  /-- A Khmer letter that can stand below another one. -/
  | subscript
  /-- The Kirat Rai vowel sign *e*. -/
  | vowelE
  /-- The Kirat Rai vowel sign *ai*, or *e* twice. -/
  | vowelAi
  /-- A picture. -/
  | picture
  /-- A tone of skin, which fuses with a picture of a person or a hand. -/
  | skinTone
  /-- A flag letter. -/
  | flagLetter
  /-- Several flag letters. -/
  | flagLetters
  /-- A joined picture, which fuses with one more. -/
  | joinedPicture
  /-- A joined picture with the frame of a key in front. -/
  | joinedKey
  /-- A joined picture with one flag letter in front. -/
  | joinedFlagLetter
  /-- A joined picture with a flag in front. -/
  | joinedFlag
  /-- A joined picture with a flag in front, and a flag letter in front of that. -/
  | joinedFlagAndLetter
  /-- A joined picture with the end of a tag in front, and that many letters of the tag. -/
  | tagLetters (count : Nat)
  /-- A joined picture with the end of a tag in front, that many digits and perhaps letters. -/
  | tagDigits (count : Nat)
deriving DecidableEq

namespace Onset

/-- The columns of an onset that are taken back if a character fuses with it. -/
def held : Onset → Nat
  | joiningSign | subscript | joinedFlagLetter | joinedFlagAndLetter => 1
  | _ => 0

/-- Whether an onset is a letter or tone, so that no selector in front keeps it from fusing. -/
def isScript : Onset → Bool
  | alef | lamed _ | ya _ | vowelYa | consonant _ | joiningSign | tone | orkhonI _ | subscript =>
    true
  | _ => false

/-- The onset of a character on its own. -/
def ofChar (c : Char) : Onset :=
  if c = '\u05DC' then lamed false
  else if alefs.contains c then alef
  else if khmerSubscripts.contains c then subscript
  else if c = '\u1A10' then ya false
  else if tifinaghConsonants.contains c then consonant false
  else if c = '\uA4FC' || c = '\uA4FD' then tone
  else if c.toNat = 0x10C03 then orkhonI false
  else if c.toNat = 0x16D67 then vowelE
  else if c.toNat = 0x16D68 then vowelAi
  else if isFlagLetter c then flagLetter
  else if isSkinTone c then skinTone
  else if pictures.contains c then picture
  else plain

/-- A letter with a joiner in front. -/
def behindJoiner : Onset → Onset
  | lamed _ => lamed true
  | ya _ => ya true
  | consonant _ => consonant true
  | orkhonI _ => orkhonI true
  | o => o

/-- What `c` becomes with the letter behind it: the columns that it adds, and the onset. -/
def fuseLetter? (c : Char) : Onset → Option (Nat × Onset)
  | alef =>
    if lams.contains c then some (0, plain) else if isTransparent c then some (0, alef) else none
  | lamed true => if c = '\u05D0' then some (0, plain) else none
  | ya true => if c = '\u1A17' then some (0, vowelYa) else none
  | vowelYa => if c = '\u1A15' then some (0, plain) else none
  | consonant joined =>
    if c = '\u2D7F' then some (0, joiningSign)
    else if joined && tifinaghConsonants.contains c then some (0, plain)
    else none
  | joiningSign => if tifinaghConsonants.contains c then some (0, plain) else none
  | tone => if isBetween 0xA4F8 0xA4FB c then some (0, plain) else none
  | orkhonI true => if c.toNat = 0x10C32 then some (0, plain) else none
  | subscript => if c = '\u17D2' then some (0, plain) else none
  | vowelE =>
    if c.toNat = 0x16D63 || c.toNat = 0x16D69 then some (0, plain)
    else if c.toNat = 0x16D67 then some (0, vowelAi)
    else if c.toNat = 0x16D68 then some (1, vowelE)
    else none
  | vowelAi => if c.toNat = 0x16D63 then some (0, plain) else none
  | _ => none

/-- What `c` becomes with the picture behind it: the columns that it adds, and the onset. -/
def fusePicture? (c : Char) : Onset → Option (Nat × Onset)
  | picture => if c = joiner then some (0, joinedPicture) else none
  | skinTone =>
    if toned.contains c then some (0, picture)
    else if c = joiner then some (0, joinedPicture)
    else none
  | flagLetter => if isFlagLetter c then some (1, flagLetters) else none
  | flagLetters =>
    if isFlagLetter c then some (1, flagLetters)
    else if c = joiner then some (0, joinedPicture)
    else none
  | joinedPicture =>
    if c = '\u20E3' then some (0, joinedKey)
    else if isFlagLetter c then some (0, joinedFlagLetter)
    else if isSkinTone c then some (0, skinTone)
    else if c.toNat = 0xE007F then some (0, tagLetters 0)
    else if pictures.contains c then some (0, picture)
    else none
  | joinedFlagLetter => if isFlagLetter c then some (0, joinedFlag) else none
  | joinedFlag =>
    if isFlagLetter c then some (2, joinedFlagAndLetter)
    else if c = joiner then some (0, joinedPicture)
    else none
  | joinedFlagAndLetter =>
    if isFlagLetter c then some (0, joinedFlag)
    else if c = joiner then some (1, joinedPicture)
    else none
  | tagLetters count =>
    if isTagLetter c && count < 6 then some (0, tagLetters (count + 1))
    else if isTagDigit c && count ≤ 4 then some (0, tagDigits 1)
    else if c.toNat = 0x1F3F4 && 3 ≤ count then some (0, picture)
    else none
  | tagDigits count =>
    if isTagDigit c && count < 3 then some (0, tagDigits (count + 1))
    else if c.toNat = 0x1F3F4 && count == 3 then some (0, picture)
    else none
  | _ => none

/-- What `c` becomes with what is behind it, if they fuse: the columns that it adds, and the onset.
Letters fuse across joiners and marks that can be ignored; *lam* and *alef* have a rule of their
own. -/
def fuse? (c : Char) (o : Onset) : Option (Nat × Onset) :=
  if o.isScript && o ≠ alef && c = joiner then some (0, o.behindJoiner)
  else if o.isScript && o ≠ alef && ignorableMarks.contains c then some (0, o)
  else (o.fuseLetter? c).or (o.fusePicture? c)

/-- The columns that are settled when `c` is put in front of an onset, and the onset then. -/
def before (c : Char) (o : Onset) : Nat × Onset :=
  (o.fuse? c).getD (o.held + (columns c - (ofChar c).held), ofChar c)

end Onset

/-! ## Selectors -/

/-- What a character asks of the one in front of it. -/
inductive Selector where
  /-- To be drawn as text. -/
  | text
  /-- To be drawn as a picture. -/
  | picture
  /-- To be drawn as wide as an ideograph. -/
  | wide
deriving DecidableEq

/-- The selector that a character is. -/
def Selector.ofChar? (c : Char) : Option Selector :=
  if c = '\uFE0E' then some .text
  else if c = '\uFE0F' then some .picture
  else if c = '\uFE01' then some .wide
  else none

/-- Whether `c` is one of the quotation marks that can be asked to be wide. -/
def isSelectableQuote (c : Char) : Bool :=
  c = '\u2018' || c = '\u2019' || c = '\u201C' || c = '\u201D'

/-- The onset of a text, and the selectors in front of it. A letter of a script keeps them all, other
onsets only the first one. -/
structure Opening where
  /-- The onset behind the selectors. -/
  onset : Onset := .plain
  /-- The selectors, from the first to the last. -/
  selectors : List Selector := []
deriving DecidableEq

namespace Opening

/-- Whether the next character is asked to be a picture, which counts in the first place only. -/
def asksForPicture (o : Opening) : Bool := o.selectors.head? = some .picture

/-- Whether a joined picture is waiting for one more in front of the selectors. -/
def isJoined (o : Opening) : Bool := o.onset = .joinedPicture || o.onset = .joinedKey

/-- The columns that are settled when a selector does what it asks of `c`, if one can, and the
onset then. -/
def selected? (c : Char) (o : Opening) : Option (Nat × Onset) :=
  if o.asksForPicture && hasPictureStyle c then some (if o.isJoined then 0 else 2, .picture)
  else if o.selectors.contains .text && narrowsAsText c then some (1, .plain)
  else if o.selectors.contains .wide && isSelectableQuote c then some (2, .plain)
  else none

/-- The onset behind selectors that did not do anything. -/
def unselected (o : Opening) : Onset :=
  if o.asksForPicture && o.isJoined then .plain else o.onset

/-- The columns that are settled when a selector is put in front of a text, and the opening. -/
def select (s : Selector) (o : Opening) : Nat × Opening :=
  if o.onset.isScript then (0, ⟨o.onset, s :: o.selectors⟩)
  else if s = .picture && isJoined ⟨o.unselected, []⟩ then (0, ⟨o.unselected, [s]⟩)
  else (o.onset.held, ⟨.plain, [s]⟩)

/-- The columns that are settled when `c` is put in front of a text, and how the text then opens. -/
def before (c : Char) (o : Opening) : Nat × Opening :=
  match o.selected? c with
  | some (width, onset) => (o.onset.held + width, ⟨onset, []⟩)
  | none =>
    if c.toNat ≤ 0xA0 then (o.unselected.held + 1, {})
    else
      match Selector.ofChar? c with
      | some s => select s o
      | none =>
        let (settled, onset) := o.unselected.before c
        (settled, ⟨onset, []⟩)

end Opening

end MethodSig.Text
