import MethodSig.Signature
import MethodSig.Text.Width

/-!
# `Table` — two columns in boxes

A table has a header and rows of two cells each. It is drawn with `+`, `-` and `|`: a border on top,
and one below the header and below every row. A column is as wide as the widest line in it, header
included; cells begin one blank behind the bar on their left and are filled up with blanks. A cell
with line feeds takes several lines, and its neighbour is given as many.
-/

namespace MethodSig

/-- A header and rows of two cells. -/
structure Table where
  /-- The header of either column. -/
  header : String × String
  /-- The rows. -/
  rows : List (String × String)

namespace Table

/-! ## Cells and columns -/

/-- The lines of a cell. A line feed at the end of the cell begins one more, empty line. -/
def cellLines (cell : String) : List (List Char) := cell.toList.splitOn '\n'

/-- The columns that the widest of some lines takes. -/
def maxWidth (lines : List (List Char)) : Nat := (lines.map Text.width).foldr max 0

/-- The width of a column with the given cells. -/
def columnWidth (cells : List String) : Nat := maxWidth (cells.flatMap cellLines)

/-- A line filled up with blanks to the given width. -/
def fill (width : Nat) (line : List Char) : List Char :=
  line ++ List.replicate (width - Text.width line) ' '

/-! ## Lines of a table -/

/-- The border of columns of the given widths. -/
def border (left right : Nat) : List Char :=
  '+' :: (List.replicate (left + 2) '-' ++ '+' :: (List.replicate (right + 2) '-' ++ ['+']))

/-- One line across both columns. -/
def line (left right : Nat) (l r : List Char) : List Char :=
  ['|', ' '] ++ fill left l ++ [' ', '|', ' '] ++ fill right r ++ [' ', '|']

/-- The number of lines that a row takes. -/
def rowHeight (row : String × String) : Nat :=
  max (cellLines row.1).length (cellLines row.2).length

/-- The lines of a row; the shorter cell is continued with empty lines. -/
def rowLines (left right : Nat) (row : String × String) : List (List Char) :=
  (List.range (rowHeight row)).map fun i =>
    line left right ((cellLines row.1).getD i []) ((cellLines row.2).getD i [])

/-- The lines of a table. -/
def lines (t : Table) : List (List Char) :=
  let rows := t.header :: t.rows
  let left := columnWidth (rows.map (·.1))
  let right := columnWidth (rows.map (·.2))
  border left right :: rows.flatMap fun row => rowLines left right row ++ [border left right]

/-- The table as a text, without a line feed at its end. -/
def text (t : Table) : String := String.ofList (['\n'].intercalate t.lines)

/-! ## What is tabulated -/

/-- The types and names of parameters. -/
def ofParams (params : List Param) : Table :=
  ⟨("Type", "Name"), params.map fun p => (p.type, p.name)⟩

/-- Tokens under their numbers, counted from zero. -/
def ofTokens (tokens : List String) : Table :=
  ⟨("#", "Token"), tokens.zipIdx.map fun (token, i) => (toString i, token)⟩

end Table

end MethodSig
