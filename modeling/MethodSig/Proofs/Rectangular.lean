import MethodSig.Proofs.Tokens
import MethodSig.Table
import Mathlib.Algebra.GroupWithZero.Nat

/-!
# `Proofs.Rectangular` — a table is drawn as a rectangle

Every line of a table takes the same number of columns on a terminal, whatever stands in its cells: a
border has as many characters as its columns ask for, and a line across the cells is filled up to the same
width (`Table.width_line`). That needs of the measure of texts only that a space and a bar are settled
wherever they stand, which is so although other characters may fuse with their neighbours.

A cell has a line more than it has line feeds, and a row as many lines as its tallest cell. No line of a
table holds a line feed, so the text of a table cut at its line feeds has just the lines that were drawn
(`Table.splitOn_text`).
-/

namespace MethodSig

variable {s l r : List Char} {left right : Nat}

/-! ## The lines of a text -/

/-- **From line to line.** What holds of texts of one line, and of a text when it holds of what stands
    behind its first line feed, holds of every text. -/
@[elab_as_elim]
theorem line_induction {motive : List Char → Prop} (s : List Char)
    (last : ∀ l, '\n' ∉ l → motive l)
    (feed : ∀ l rest, '\n' ∉ l → motive rest → motive (l ++ '\n' :: rest)) : motive s := by
  have hnotMem : ∀ l : List Char, (∀ c ∈ l, (c == '\n') = false) → '\n' ∉ l :=
    fun l hl hmem => absurd (hl '\n' hmem) (by decide)
  induction s using separator_induction (p := (· == '\n')) with
  | whole l hl => exact last l (hnotMem l hl)
  | cut l c rest hl hc ih =>
      obtain rfl : c = '\n' := beq_iff_eq.mp hc
      exact feed l rest (hnotMem l hl) ih

theorem length_splitOn_newline (s : List Char) : (s.splitOn '\n').length = 1 + s.count '\n' := by
  induction s using line_induction with
  | last l hl =>
      rw [List.splitOn_eq_singleton hl, List.count_eq_zero.mpr hl]
      rfl
  | feed l rest hl ih =>
      rw [List.splitOn_append_cons_self_of_not_mem hl, List.length_cons, ih, List.count_append,
        List.count_eq_zero.mpr hl, List.count_cons_self]
      omega

/-- A line holds no line feed, and only what the text holds. -/
theorem mem_of_mem_splitOn (h : l ∈ s.splitOn '\n') : '\n' ∉ l ∧ ∀ c ∈ l, c ∈ s := by
  induction s using line_induction with
  | last s hs =>
      rw [List.splitOn_eq_singleton hs, List.mem_singleton] at h
      rw [h]
      exact ⟨hs, fun c hc => hc⟩
  | feed front rest hfront ih =>
      rw [List.splitOn_append_cons_self_of_not_mem hfront] at h
      rcases List.mem_cons.mp h with rfl | hrest
      · exact ⟨hfront, fun c hc => List.mem_append_left _ hc⟩
      · obtain ⟨hl, hmem⟩ := ih hrest
        exact ⟨hl, fun c hc => List.mem_append_right front (List.mem_cons_of_mem '\n' (hmem c hc))⟩

namespace Text

/-- Settled characters take a column each. -/
theorem width_of_forall_isSettled (h : ∀ c ∈ s, isSettled c = true) : width s = s.length := by
  induction s with
  | nil => rfl
  | cons c s ih =>
      rw [width_cons_of_isSettled (h c List.mem_cons_self), ih fun d hd => h d (List.mem_cons_of_mem c hd)]
      rfl

theorem isSettled_bar : isSettled '|' = true := by decide +kernel

theorem isSettled_plus : isSettled '+' = true := by decide +kernel

theorem isSettled_dash : isSettled '-' = true := by decide +kernel

end Text

namespace Table

variable {t : Table} {row : String × String} {cells : List String} {cell : String}

/-! ## Columns -/

theorem length_cellLines (cell : String) : (cellLines cell).length = 1 + cell.toList.count '\n' :=
  length_splitOn_newline cell.toList

/-- What stands in a line of a row is a line of the cell, or nothing. -/
theorem getD_cellLines_cases (cell : String) (i : Nat) :
    (cellLines cell).getD i [] ∈ cellLines cell ∨ (cellLines cell).getD i [] = [] := by
  rw [List.getD_eq_getElem?_getD]
  cases h : (cellLines cell)[i]? with
  | none => exact Or.inr rfl
  | some l => exact Or.inl (List.mem_of_getElem? h)

/-- No line is wider than the widest. -/
theorem width_le_maxWidth {lines : List (List Char)} (h : l ∈ lines) : Text.width l ≤ maxWidth lines := by
  induction lines with
  | nil => exact absurd h List.not_mem_nil
  | cons first lines ih =>
      rw [maxWidth, List.map_cons, List.foldr_cons]
      rcases List.mem_cons.mp h with rfl | h
      · exact Nat.le_max_left _ _
      · exact Nat.le_trans (ih h) (Nat.le_max_right _ _)

/-- A line of a cell is no wider than the column. -/
theorem width_le_columnWidth (hcell : cell ∈ cells) (hl : l ∈ cellLines cell) :
    Text.width l ≤ columnWidth cells :=
  width_le_maxWidth (List.mem_flatMap.mpr ⟨cell, hcell, hl⟩)

/-- Neither is the empty line with which a shorter cell is continued. -/
theorem width_getD_le_columnWidth (hcell : cell ∈ cells) (i : Nat) :
    Text.width ((cellLines cell).getD i []) ≤ columnWidth cells := by
  rcases getD_cellLines_cases cell i with h | h
  · exact width_le_columnWidth hcell h
  · rw [h]
    exact Nat.zero_le _

/-- A line that fits is filled up to the width. -/
theorem width_fill (h : Text.width l ≤ left) : Text.width (fill left l) = left := by
  rw [fill, Text.width_append_replicate]
  omega

/-! ## Lines -/

/-- The width of the column on the left. -/
def leftWidth (t : Table) : Nat := columnWidth ((t.header :: t.rows).map (·.1))

/-- The width of the column on the right. -/
def rightWidth (t : Table) : Nat := columnWidth ((t.header :: t.rows).map (·.2))

theorem lines_eq (t : Table) :
    t.lines = border t.leftWidth t.rightWidth :: (t.header :: t.rows).flatMap fun row =>
      rowLines t.leftWidth t.rightWidth row ++ [border t.leftWidth t.rightWidth] := rfl

/-- **A line across the cells** is as wide as both columns with what stands around them. -/
theorem width_line (hl : Text.width l ≤ left) (hr : Text.width r ≤ right) :
    Text.width (line left right l r) = left + right + 7 := by
  have hline : line left right l r =
      '|' :: ' ' :: (fill left l ++ ' ' :: '|' :: ' ' :: (fill right r ++ ' ' :: '|' :: [])) := by
    simp [line]
  rw [hline, Text.width_cons_of_isSettled Text.isSettled_bar,
    Text.width_cons_of_isSettled Text.isSettled_space, Text.width_space, width_fill hl,
    Text.width_cons_of_isSettled Text.isSettled_bar, Text.width_cons_of_isSettled Text.isSettled_space,
    Text.width_space, width_fill hr, Text.width_cons_of_isSettled Text.isSettled_bar, Text.width_nil]
  omega

theorem mem_border (h : c ∈ border left right) : c = '+' ∨ c = '-' := by
  simp only [border, List.mem_cons, List.mem_append, List.mem_replicate, List.not_mem_nil,
    or_false] at h
  rcases h with h | ⟨-, h⟩ | h | ⟨-, h⟩ | h
  · exact Or.inl h
  · exact Or.inr h
  · exact Or.inl h
  · exact Or.inr h
  · exact Or.inl h

/-- So is a border. -/
theorem width_border (left right : Nat) : Text.width (border left right) = left + right + 7 := by
  have hsettled : ∀ c ∈ border left right, Text.isSettled c = true := by
    intro c hc
    rcases mem_border hc with rfl | rfl
    · exact Text.isSettled_plus
    · exact Text.isSettled_dash
  rw [Text.width_of_forall_isSettled hsettled]
  simp only [border, List.length_cons, List.length_append, List.length_replicate, List.length_nil]
  omega

/-- A line of a table is a border or runs across the cells of a row. -/
theorem mem_lines_cases (h : s ∈ t.lines) :
    s = border t.leftWidth t.rightWidth ∨ ∃ row ∈ t.header :: t.rows, ∃ i,
      s = line t.leftWidth t.rightWidth ((cellLines row.1).getD i []) ((cellLines row.2).getD i []) := by
  rw [lines_eq, List.mem_cons, List.mem_flatMap] at h
  rcases h with h | ⟨row, hrow, h⟩
  · exact Or.inl h
  · rcases List.mem_append.mp h with h | h
    · obtain ⟨i, -, rfl⟩ := List.mem_map.mp h
      exact Or.inr ⟨row, hrow, i, rfl⟩
    · exact Or.inl (List.mem_singleton.mp h)

/-- **All lines of a table are equally wide.** -/
theorem width_of_mem_lines (h : s ∈ t.lines) : Text.width s = t.leftWidth + t.rightWidth + 7 := by
  rcases mem_lines_cases h with rfl | ⟨row, hrow, i, rfl⟩
  · exact width_border _ _
  · exact width_line (width_getD_le_columnWidth (List.mem_map_of_mem hrow) i)
      (width_getD_le_columnWidth (List.mem_map_of_mem hrow) i)

/-- A row takes its height, and a border below. -/
theorem length_lines (t : Table) :
    t.lines.length = 1 + ((t.header :: t.rows).map fun row => 1 + rowHeight row).sum := by
  rw [lines_eq, List.length_cons, List.length_flatMap, Nat.add_comm]
  simp [rowLines, Nat.add_comm]

/-! ## The text -/

/-- What stands in a line of a row holds no line feed, and only what the cell holds. -/
theorem mem_getD_cellLines (cell : String) (i : Nat) :
    '\n' ∉ (cellLines cell).getD i [] ∧ ∀ c ∈ (cellLines cell).getD i [], c ∈ cell.toList := by
  rcases getD_cellLines_cases cell i with h | h
  · exact mem_of_mem_splitOn h
  · rw [h]
    exact ⟨List.not_mem_nil, fun c hc => absurd hc List.not_mem_nil⟩

theorem newline_notMem_line (hl : '\n' ∉ l) (hr : '\n' ∉ r) : '\n' ∉ line left right l r := by
  simp [line, fill, hl, hr]

theorem newline_notMem_of_mem_lines (h : s ∈ t.lines) : '\n' ∉ s := by
  rcases mem_lines_cases h with rfl | ⟨row, -, i, rfl⟩
  · intro hmem
    rcases mem_border hmem with h | h
    · exact absurd h (by decide)
    · exact absurd h (by decide)
  · exact newline_notMem_line (mem_getD_cellLines _ i).1 (mem_getD_cellLines _ i).1

/-- **The text of a table, cut at its line feeds**, has the lines of the table. -/
theorem splitOn_text (t : Table) : t.text.toList.splitOn '\n' = t.lines := by
  rw [text, String.toList_ofList]
  exact List.splitOn_intercalate '\n' (fun _ h => newline_notMem_of_mem_lines h) (List.cons_ne_nil _ _)

/-! ## Rectangles -/

/-- The height of the tallest cell of a row: a line more than it has line feeds. -/
def tallest (row : String × String) : Nat :=
  max (1 + row.1.toList.count '\n') (1 + row.2.toList.count '\n')

theorem rowHeight_eq (row : String × String) : rowHeight row = tallest row := by
  rw [rowHeight, length_cellLines, length_cellLines, tallest]

/-- **The table is drawn as a rectangle**: its lines are equally wide, and besides the border on top and
    the header with its border there are those of the rows, each with a border below. -/
structure IsRectangular (t : Table) : Prop where
  /-- All lines take the same number of columns. -/
  width : ∃ w, ∀ s ∈ t.text.toList.splitOn '\n', Text.width s = w
  /-- The number of lines. -/
  height : (t.text.toList.splitOn '\n').length = 3 + (t.rows.map fun row => 1 + tallest row).sum

/-- **So is every table** with a header of one line. -/
theorem isRectangular (h : tallest t.header = 1) : t.IsRectangular := by
  refine ⟨⟨t.leftWidth + t.rightWidth + 7, ?_⟩, ?_⟩
  · intro s hs
    rw [splitOn_text] at hs
    exact width_of_mem_lines hs
  · rw [splitOn_text, length_lines, List.map_cons, List.sum_cons, rowHeight_eq, h, ← Nat.add_assoc]
    simp only [rowHeight_eq]

end Table

end MethodSig
