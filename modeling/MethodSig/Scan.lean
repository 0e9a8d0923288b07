/-!
# `Scan` — classes of characters and their maximal runs

The grammar of signatures knows two classes of characters: word characters, of which types and names
are made, and the six blanks that separate words. A run is always taken whole: `run?` reads as many
characters of a class as there are, at least one, and never gives one back.
-/

namespace MethodSig

/-- Word characters: the ASCII letters and digits, and the underscore. -/
def isWordChar (c : Char) : Bool := c.isAlphanum || c == '_'

/-- The six blanks that may stand between two words: the space, the horizontal and the vertical tab,
line feed, carriage return and form feed. -/
def isBlank (c : Char) : Bool :=
  c == ' ' || c == '\t' || c == '\n' || c == '\r' || c == '\x0b' || c == '\x0c'

/-- The maximal run of characters of class `p` at the front of `s`, and what follows it. There is
none where `s` does not begin with such a character. -/
def run? (p : Char → Bool) (s : List Char) : Option (List Char × List Char) :=
  match s.takeWhile p with
  | [] => none
  | run => some (run, s.dropWhile p)

/-- The word at the front of `s`. -/
abbrev word? : List Char → Option (List Char × List Char) := run? isWordChar

/-- The blanks at the front of `s`. -/
abbrev blanks? : List Char → Option (List Char × List Char) := run? isBlank

/-! ## Laws of runs -/

theorem run?_eq_some_iff {p : Char → Bool} {s run rest : List Char} :
    run? p s = some (run, rest) ↔ run ≠ [] ∧ s.takeWhile p = run ∧ s.dropWhile p = rest := by
  unfold run?
  split
  · rename_i h
    rw [h]
    simp only [reduceCtorEq, false_iff]
    rintro ⟨hne, rfl, -⟩
    exact hne rfl
  · rename_i hne
    simp only [Option.some.injEq, Prod.mk.injEq]
    constructor
    · rintro ⟨rfl, rfl⟩
      exact ⟨hne, rfl, rfl⟩
    · rintro ⟨-, h₁, h₂⟩
      exact ⟨h₁, h₂⟩

/-- A run and what follows it make up the text. -/
theorem eq_append_of_run? {p : Char → Bool} {s run rest : List Char}
    (h : run? p s = some (run, rest)) : s = run ++ rest := by
  obtain ⟨-, rfl, rfl⟩ := run?_eq_some_iff.1 h
  exact List.takeWhile_append_dropWhile.symm

/-- Behind a run the text is shorter. -/
theorem length_lt_of_run? {p : Char → Bool} {s run rest : List Char}
    (h : run? p s = some (run, rest)) : rest.length < s.length := by
  have hne := (run?_eq_some_iff.1 h).1
  rw [eq_append_of_run? h, List.length_append]
  have := List.length_pos_iff.2 hne
  omega

end MethodSig
