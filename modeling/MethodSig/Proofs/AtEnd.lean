import MethodSig.Proofs.Misses
import Mathlib.Data.String.Basic

/-!
# `Proofs.AtEnd` — where a text is rejected

A rejection speaks of the furthest misses: its place is where they lie, and what it expects are their
terminals (`isFurthest_iff`). A text that holds no signature is searched to its end, and there the search
asks for a further character and, once more, for a signature. What was missed before was missed in
attempts that leave no record, so the misses of a rejected text are always the same, and all of them lie
at the end (`searchMisses_of_none`). However far a declaration in the text came, the rejection does not
say so.
-/

namespace MethodSig

variable {ms : List Miss} {x : Symbol} {s rest : List Char}

/-! ## The furthest misses -/

theorem mem_placeTerminal {t u : Terminal} {l : List Terminal} :
    u ∈ placeTerminal t l ↔ u = t ∨ u ∈ l := by
  induction l with
  | nil => simp [placeTerminal]
  | cons v l ih =>
      rw [placeTerminal]
      split
      · rename_i h
        subst h
        simp
      · split
        · simp
        · simp [ih, or_left_comm]

theorem mem_foldr_placeTerminal {u : Terminal} {l : List Terminal} :
    u ∈ l.foldr placeTerminal [] ↔ u ∈ l := by
  induction l with
  | nil => simp
  | cons t l ih => rw [List.foldr_cons, mem_placeTerminal, ih, List.mem_cons]

/-- As much text is left at the furthest misses as at any, or less. -/
theorem leftAtFurthest_eq_iff {n : Nat} (hne : ms ≠ []) :
    leftAtFurthest ms = n ↔ (∃ m ∈ ms, m.rest.length = n) ∧ ∀ m ∈ ms, n ≤ m.rest.length := by
  have hmin : (ms.map fun m => m.rest.length).min? = some (leftAtFurthest ms) := by
    cases ms with
    | nil => exact absurd rfl hne
    | cons m ms => rw [leftAtFurthest, List.map_cons, List.min?_cons', List.foldl_map]
  rw [← Option.some.injEq, ← hmin, List.min?_eq_some_iff]
  simp

theorem mem_recorded_iff :
    (x, rest) ∈ recorded ms ↔ ∃ m ∈ ms, x = .named m.terminal ∧ rest = m.rest := by
  simp [recorded, eq_comm]

/-- **Where the furthest misses lie**: where least text is left. -/
theorem isFurthest_iff :
    IsFurthest (recorded ms) (x, rest) ↔ (x, rest) ∈ recorded ms ∧ rest.length = leftAtFurthest ms := by
  have hle : (∀ other ∈ recorded ms, rest.length ≤ other.2.length) ↔
      ∀ m ∈ ms, rest.length ≤ m.rest.length := List.forall_mem_map
  rw [IsFurthest, hle]
  refine and_congr_right fun hmem => ?_
  obtain ⟨m, hm, -, rfl⟩ := mem_recorded_iff.mp hmem
  rw [eq_comm, leftAtFurthest_eq_iff (List.ne_nil_of_mem hm)]
  exact ⟨fun h => ⟨⟨m, hm, rfl⟩, h⟩, fun h => h.2⟩

/-- **What is expected** are the terminals of the furthest misses. -/
theorem mem_expectedAtFurthest_iff {t : Terminal} :
    t ∈ expectedAtFurthest ms ↔ ∃ rest, IsFurthest (recorded ms) (.named t, rest) := by
  simp only [isFurthest_iff, mem_recorded_iff, expectedAtFurthest, mem_foldr_placeTerminal, List.mem_map,
    List.mem_filter, beq_iff_eq, Symbol.named.injEq]
  constructor
  · rintro ⟨m, ⟨hm, hleft⟩, rfl⟩
    exact ⟨m.rest, ⟨m, hm, rfl, rfl⟩, hleft⟩
  · rintro ⟨rest, ⟨m, hm, rfl, rfl⟩, hleft⟩
    exact ⟨m, ⟨hm, hleft⟩, rfl⟩

/-! ## Misses at the end -/

/-- What is missed at the end of every text that holds no signature. -/
def endMisses : List Miss :=
  [⟨.anyChar, []⟩, ⟨.keyword .pub, []⟩, ⟨.keyword .prot, []⟩, ⟨.keyword .priv, []⟩, ⟨.wordChar, []⟩]

/-- **The misses of a rejected text** are those at its end. -/
theorem searchMisses_of_none (h : findSignature? s = none) : searchMisses s = endMisses := by
  induction s with
  | nil => rfl
  | cons c s ih =>
      have hfront : signature? (c :: s) = none := findSignature?_eq_none_iff.mp h 0
      rw [findSignature?_cons_of_none hfront] at h
      -- the attempt at the front leaves nothing, however far it came
      rw [searchMisses, hfront]
      exact ih h

/-- What is expected at the end of a rejected text, in the order in which it is named. -/
def endTerminals : List Terminal :=
  [.keyword .priv, .keyword .prot, .keyword .pub, .wordChar, .anyChar]

theorem expectedAtFurthest_endMisses : expectedAtFurthest endMisses = endTerminals := by
  decide +kernel

/-- All misses at the end are furthest, and all of them are expected. -/
theorem isFurthest_endMisses :
    IsFurthest (recorded endMisses) (x, rest) ↔ rest = [] ∧ ∃ t ∈ endTerminals, x = .named t := by
  have hend : ∀ {x rest}, (x, rest) ∈ recorded endMisses → rest = [] ∧ ∃ t, x = .named t := by
    intro x rest h
    obtain ⟨m, hm, rfl, rfl⟩ := mem_recorded_iff.mp h
    have hall : ∀ m ∈ endMisses, m.rest = [] := by simp [endMisses]
    exact ⟨hall m hm, m.terminal, rfl⟩
  -- the place is known of every miss, so only the terminals are left, and these are the expected ones
  simp only [← expectedAtFurthest_endMisses, mem_expectedAtFurthest_iff]
  constructor
  · intro h
    obtain ⟨hrest, t, rfl⟩ := hend h.1
    exact ⟨hrest, t, ⟨rest, h⟩, rfl⟩
  · rintro ⟨rfl, t, ⟨rest, h⟩, rfl⟩
    obtain ⟨rfl, -⟩ := hend h.1
    exact h

/-! ## Places -/

theorem utf8Length_toList (s : String) : Text.utf8Length s.toList = s.utf8ByteSize := by
  have hlength : ∀ cs : List Char, Text.utf8Length cs = String.utf8Len cs := by
    intro cs
    induction cs with
    | nil => rfl
    | cons c cs ih => rw [Text.utf8Length, ih, String.utf8Len_cons, Nat.add_comm]
  rw [hlength, String.utf8Len_toList]

theorem forall_ne_newline_of_notMem (h : '\n' ∉ s) : ∀ c ∈ s.reverse, (c != '\n') = true :=
  fun _ hc => bne_iff_ne.mpr (ne_of_mem_of_not_mem (List.mem_reverse.mp hc) h)

/-- The column behind a text is counted from its last line feed. -/
theorem column_behind_of_newline {front last : List Char} (h : '\n' ∉ last) :
    (Place.behind (front ++ '\n' :: last)).column = 1 + last.length := by
  rw [Place.behind, List.reverse_append, List.reverse_cons, List.append_assoc,
    List.takeWhile_append_of_pos (forall_ne_newline_of_notMem h)]
  simp

/-- The column behind a text of one line is counted from its beginning. -/
theorem column_behind_of_line (h : '\n' ∉ s) : (Place.behind s).column = 1 + s.length := by
  rw [Place.behind, List.takeWhile_eq_self_iff.mpr (forall_ne_newline_of_notMem h), List.length_reverse]

/-! ## Rejections -/

theorem parse_eq_error_iff {input : String} {why : Rejection} :
    Signature.parse input = .error why ↔
      findSignature? input.toList = none ∧ why = .ofText input := by
  unfold Signature.parse
  cases findSignature? input.toList <;> simp [eq_comm]

/-- **A rejection at the end of the text**: where it is, and what is expected there. -/
structure Rejection.IsAtEndOf (why : Rejection) (s : String) : Prop where
  /-- The rejected text is kept. -/
  input : why.input = s
  /-- Every byte lies before the place. -/
  offset : why.place.offset = s.utf8ByteSize
  /-- So does every line feed. -/
  line : why.place.line = 1 + s.toList.count '\n'
  /-- The column is that behind the last line. -/
  column : ∀ front last, s.toList = front ++ '\n' :: last → '\n' ∉ last →
    why.place.column = 1 + last.length
  /-- Where there is no line feed, the last line is the whole text. -/
  column_of_line : '\n' ∉ s.toList → why.place.column = 1 + s.length
  /-- Expected are the keywords, a word character and any character. -/
  expected : why.expected = endTerminals
  /-- So are they named. -/
  named : why.expected.map Terminal.text =
    ["\"private\"", "\"protected\"", "\"public\"", "['a'..='z' | 'A'..='Z' | '0'..='9' | '_']", "[_]"]

/-- The rejection of a text that holds no signature, with all that is computed of it. -/
theorem Rejection.ofText_eq {input : String} (h : findSignature? input.toList = none) :
    Rejection.ofText input = ⟨input, .behind input.toList, endTerminals⟩ := by
  have hplace : input.toList.take (input.toList.length - leftAtFurthest endMisses) = input.toList :=
    List.take_length
  rw [Rejection.ofText, searchMisses_of_none h, hplace, expectedAtFurthest_endMisses]

theorem Rejection.isAtEndOf_of_eq {why : Rejection} {s : String}
    (h : why = ⟨s, .behind s.toList, endTerminals⟩) : why.IsAtEndOf s := by
  subst h
  refine ⟨rfl, utf8Length_toList s, rfl, ?_, ?_, rfl, rfl⟩
  · intro front last hs hlast
    rw [hs]
    exact column_behind_of_newline hlast
  · intro hline
    rw [← String.length_toList]
    exact column_behind_of_line hline

/-- **Every rejection lies at the end.** The rejection of a text keeps the text; its place is the end of
    it, by bytes, line and column; and expected there are the three keywords, a word character and any
    character. That is what the grammar misses: read as a pattern it fails on the text in one way, and
    the furthest of its misses lie at the end and are of just these terminals. -/
theorem parse_error_atEnd (s : String) (why : Rejection) (h : Signature.parse s = .error why) :
    why.IsAtEndOf s ∧
      ∃ misses, (∀ o m, Pattern.search.Reads s.toList o m ↔ o = none ∧ m = misses) ∧
        ∀ x rest, IsFurthest misses (x, rest) ↔ rest = [] ∧ ∃ t ∈ why.expected, x = .named t := by
  obtain ⟨hnone, rfl⟩ := parse_eq_error_iff.mp h
  have heq := Rejection.ofText_eq hnone
  refine ⟨Rejection.isAtEndOf_of_eq heq, recorded endMisses, ?_, ?_⟩
  · intro o m
    rw [reads_search_iff, hnone, searchMisses_of_none hnone]
    rfl
  · intro x rest
    rw [heq]
    exact isFurthest_endMisses

theorem parse_error_atEnd_unclosed :
    Signature.parse "private\nvoid f(int é, (" =
        .error ⟨"private\nvoid f(int é, (", ⟨24, 2, 16⟩, endTerminals⟩ ∧
      Rejection.IsAtEndOf ⟨"private\nvoid f(int é, (", ⟨24, 2, 16⟩, endTerminals⟩
        "private\nvoid f(int é, (" := by
  have hparse : Signature.parse "private\nvoid f(int é, (" =
      .error ⟨"private\nvoid f(int é, (", ⟨24, 2, 16⟩, endTerminals⟩ := by
    decide +kernel
  exact ⟨hparse, (parse_error_atEnd _ _ hparse).1⟩

end MethodSig
