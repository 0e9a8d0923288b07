import MethodSig.Proofs.Printed
import MethodSig.Proofs.Rectangular
import Mathlib.Data.List.DropRight

/-!
# `Proofs.Tabulated` — what is printed as a table says what was computed

A table is read as it is looked at: its lines are grouped by the borders, the groups behind the header are
the rows, and every line of a row is cut at its bars and freed of the blanks around its cells
(`Table.readRows`). The bar that ends the cell on the left is the first behind the one at the margin, so the
cell on the right may hold any bars of its own. What a reader cannot see are blanks at the end of a line,
which look like the filling of the column; a word has none and is read back as it is.

So the types and the names of the parameters are read back from the table of a signature, and numbered
tokens, line by line, from that of a text that was split.
-/

namespace MethodSig

variable {α β : Type} {l r w : List Char}

/-! ## Groups between marks -/

/-- Groups that end with a mark each are found by cutting at the marks. -/
theorem splitOnP_flatMap_concat {p : β → Bool} {mark : β} (hmark : p mark = true) {group : α → List β}
    {xs : List α} (h : ∀ x ∈ xs, ∀ y ∈ group x, p y = false) :
    (xs.flatMap fun x => group x ++ [mark]).splitOnP p = xs.map group ++ [[]] := by
  induction xs with
  | nil => rfl
  | cons x xs ih =>
      have hx : ∀ y ∈ group x, p y = false := h x List.mem_cons_self
      have hxs : ∀ x' ∈ xs, ∀ y ∈ group x', p y = false :=
        fun x' hx' => h x' (List.mem_cons_of_mem x hx')
      rw [List.flatMap_cons, List.append_assoc, List.singleton_append,
        List.splitOnP_append_cons_of_forall_mem hx mark hmark, ih hxs]
      rfl

/-- The elements of a list, counted off. -/
theorem map_range_getD (f : α → β) (d : α) (xs : List α) :
    ((List.range xs.length).map fun i => f (xs.getD i d)) = xs.map f := by
  refine List.ext_getElem (by simp) ?_
  intro i _ hi
  have hlt : i < xs.length := by simpa using hi
  simp [List.getElem?_eq_getElem hlt]

/-! ## Words -/

theorem isWord_toString_nat (n : Nat) : IsWord (toString n).toList := by
  have heq : (toString n).toList = Nat.toDigits 10 n := Nat.toList_repr
  rw [heq]
  refine ⟨Nat.toDigits_ne_nil, ?_⟩
  intro c hc
  have hdigit : c.isDigit = true := Nat.isDigit_of_mem_toDigits (by decide) (by decide) hc
  simp [isWordChar, Char.isAlphanum, hdigit]

/-- Characters of no word are in none. -/
theorem IsRun.notMem_of_word {c : Char} (h : IsWord w) (hc : isWordChar c = false) : c ∉ w := by
  intro hmem
  rw [h.all c hmem] at hc
  exact absurd hc (by decide)

namespace Table

variable {t : Table} {left right : Nat} {cell : String}

/-! ## Reading a table -/

/-- What is seen of a text that may have been filled up with blanks. -/
def trimmed (l : List Char) : List Char := l.rdropWhile (· == ' ')

/-- What stands between two bars, without the blank in front. -/
def cellContent (cell : List Char) : List Char := trimmed (cell.drop 1)

/-- Both cells of a line across them. The cell on the left ends at the first bar behind the margin. -/
def lineCells (line : List Char) : List Char × List Char :=
  let cells := line.splitOn '|'
  (cellContent (cells.getD 1 []), cellContent (['|'].intercalate (cells.drop 2).dropLast))

/-- Borders begin with a plus. -/
def isBorder (line : List Char) : Bool := line.head? == some '+'

/-- The lines between the borders, without the header. -/
def dataRows (text : String) : List (List (List Char)) :=
  (((text.toList.splitOn '\n').splitOnP isBorder).drop 2).dropLast

/-- **The rows that are read from the text of a table**, each as the cells of its lines. -/
def readRows (text : String) : List (List (List Char × List Char)) :=
  (dataRows text).map fun row => row.map lineCells

/-- What can be read of a row. -/
def seenLines (row : String × String) : List (List Char × List Char) :=
  (List.range (rowHeight row)).map fun i =>
    (trimmed ((cellLines row.1).getD i []), trimmed ((cellLines row.2).getD i []))

/-- The lines of a text with a label beside the first of them. -/
def beside (label : List Char) : List (List Char) → List (List Char × List Char)
  | [] => []
  | l :: lines => (label, trimmed l) :: lines.map fun l => ([], trimmed l)

/-! ## Rows -/

theorem isBorder_border (left right : Nat) : isBorder (border left right) = true := rfl

theorem isBorder_line (left right : Nat) (l r : List Char) : isBorder (line left right l r) = false := rfl

theorem not_isBorder_of_mem_rowLines {row : String × String} {s : List Char}
    (h : s ∈ rowLines left right row) : isBorder s = false := by
  obtain ⟨i, -, rfl⟩ := List.mem_map.mp h
  exact isBorder_line _ _ _ _

/-- **The rows of a table** are what stands between its borders, behind the header. -/
theorem dataRows_text (t : Table) :
    dataRows t.text = t.rows.map (rowLines t.leftWidth t.rightWidth) := by
  have hgroups : t.lines.splitOnP isBorder =
      [] :: ((t.header :: t.rows).map (rowLines t.leftWidth t.rightWidth) ++ [[]]) := by
    have hfront : ∀ s ∈ ([] : List (List Char)), isBorder s = false := by simp
    rw [lines_eq, ← List.nil_append (border _ _ :: _),
      List.splitOnP_append_cons_of_forall_mem hfront _ (isBorder_border _ _),
      splitOnP_flatMap_concat (isBorder_border _ _) fun _ _ _ hs => not_isBorder_of_mem_rowLines hs]
  rw [dataRows, splitOn_text, hgroups]
  simp

/-! ## Cells -/

theorem trimmed_append_replicate (l : List Char) (n : Nat) :
    trimmed (l ++ List.replicate n ' ') = trimmed l := by
  induction n with
  | zero => simp
  | succ n ih =>
      rw [List.replicate_succ', ← List.append_assoc, trimmed, List.rdropWhile_concat_pos _ _ _ rfl]
      exact ih

/-- Blanks inside a cell are not at its end. -/
theorem trimmed_of_notMem (h : ' ' ∉ l) : trimmed l = l := by
  refine List.rdropWhile_eq_self_iff.mpr ?_
  intro hne hlast
  have hmem : l.getLast hne ∈ l := List.getLast_mem hne
  rw [beq_iff_eq.mp hlast] at hmem
  exact h hmem

/-- A cell is freed of its padding and of its filling. -/
theorem cellContent_fill (n : Nat) (l : List Char) :
    cellContent (' ' :: (fill n l ++ [' '])) = trimmed l := by
  have hpadding : fill n l ++ [' '] = l ++ List.replicate (n - Text.width l + 1) ' ' := by
    rw [fill, List.append_assoc, List.replicate_succ']
  rw [cellContent, List.drop_succ_cons, List.drop_zero, hpadding, trimmed_append_replicate]

theorem bar_notMem_fill (n : Nat) (h : '|' ∉ l) : '|' ∉ fill n l := by
  simp [fill, h]

/-- A line cut at its bars: the margin, the cell on the left, the pieces of the cell on the right, and
    nothing behind the last bar. -/
theorem splitOn_bar (hl : '|' ∉ l) :
    ('|' :: (l ++ '|' :: (r ++ ['|']))).splitOn '|' = [] :: l :: (r.splitOn '|' ++ [[]]) := by
  rw [← List.nil_append ('|' :: _), List.splitOn_append_cons_self_of_not_mem List.not_mem_nil,
    List.splitOn_append_cons_self_of_not_mem hl, List.splitOn_append_cons_self, List.splitOn_nil]

/-- **A line is read** up to blanks at the end of its cells. The cell on the left holds no bar; that on the
    right may hold some. -/
theorem lineCells_line (h : '|' ∉ l) : lineCells (line left right l r) = (trimmed l, trimmed r) := by
  have hleft : '|' ∉ ' ' :: (fill left l ++ [' ']) := by simp [bar_notMem_fill left h]
  have hline : line left right l r =
      '|' :: ((' ' :: (fill left l ++ [' '])) ++ '|' :: ((' ' :: (fill right r ++ [' '])) ++ ['|'])) := by
    simp [line]
  have hpieces : (['|'].intercalate ((' ' :: (fill right r ++ [' '])).splitOn '|')) =
      ' ' :: (fill right r ++ [' ']) := List.intercalate_splitOn '|'
  rw [lineCells, hline, splitOn_bar hleft]
  show (cellContent _, cellContent (['|'].intercalate (_ ++ [[]]).dropLast)) = _
  rw [List.dropLast_concat, hpieces, List.getD_cons_succ, List.getD_cons_zero, cellContent_fill,
    cellContent_fill]

/-- **The rows of a table are read back.** -/
theorem readRows_text (h : ∀ row ∈ t.rows, '|' ∉ row.1.toList) :
    readRows t.text = t.rows.map seenLines := by
  rw [readRows, dataRows_text, List.map_map]
  refine List.map_congr_left ?_
  intro row hrow
  rw [Function.comp_apply, rowLines, List.map_map, seenLines]
  refine List.map_congr_left ?_
  intro i _
  have hbar : '|' ∉ (cellLines row.1).getD i [] :=
    fun hmem => h row hrow ((mem_getD_cellLines row.1 i).2 '|' hmem)
  exact lineCells_line hbar

/-! ## Words beside texts -/

theorem cellLines_of_isWord (h : IsWord cell.toList) : cellLines cell = [cell.toList] :=
  List.splitOn_eq_singleton (h.notMem_of_word (by decide))

theorem trimmed_of_isWord (h : IsWord w) : trimmed w = w :=
  trimmed_of_notMem (h.notMem_of_word (by decide))

/-- **A word beside a text** is read on the first line of the text. -/
theorem seenLines_of_isWord {label text : String} (h : IsWord label.toList) :
    seenLines (label, text) = beside label.toList (cellLines text) := by
  cases hlines : cellLines text with
  | nil => exact absurd hlines (List.splitOn_ne_nil '\n' text.toList)
  | cons l lines =>
      have hheight : rowHeight (label, text) = lines.length + 1 := by
        rw [rowHeight, cellLines_of_isWord h, hlines]
        simp
      have hrest : ((List.range lines.length).map fun i => (([] : List Char), trimmed (lines.getD i []))) =
          lines.map fun l => ([], trimmed l) := map_range_getD (fun l => ([], trimmed l)) [] lines
      rw [seenLines, hheight, List.range_succ_eq_map, List.map_cons, List.map_map]
      dsimp only
      rw [cellLines_of_isWord h, hlines, beside, ← hrest]
      simp only [List.getD_cons_zero, trimmed_of_isWord h]
      rfl

/-- The rows of a table whose cells on the left are words. -/
theorem readRows_text_of_isWord (h : ∀ row ∈ t.rows, IsWord row.1.toList) :
    readRows t.text = t.rows.map fun row => beside row.1.toList (cellLines row.2) := by
  have hbar : ∀ row ∈ t.rows, '|' ∉ row.1.toList :=
    fun row hrow => (h row hrow).notMem_of_word (by decide)
  rw [readRows_text hbar]
  refine List.map_congr_left ?_
  intro row hrow
  exact seenLines_of_isWord (h row hrow)

/-- **Parameters are read back**, a line each. -/
theorem readRows_ofParams {params : List Param} (h : ∀ p ∈ params, p.WellFormed) :
    readRows (ofParams params).text = params.map fun p => [(p.type.toList, p.name.toList)] := by
  have hword : ∀ row ∈ (ofParams params).rows, IsWord row.1.toList := by
    intro row hrow
    obtain ⟨p, hp, rfl⟩ := List.mem_map.mp hrow
    exact (h p hp).type
  rw [readRows_text_of_isWord hword, ofParams, List.map_map]
  refine List.map_congr_left ?_
  intro p hp
  have hname : IsWord p.name.toList := (h p hp).name
  show beside p.type.toList (cellLines p.name) = _
  rw [cellLines_of_isWord hname, beside, trimmed_of_isWord hname]
  rfl

/-- **Tokens are read back** under their numbers, line by line. -/
theorem readRows_ofTokens (tokens : List String) :
    readRows (ofTokens tokens).text =
      tokens.zipIdx.map fun (token, i) => beside (toString i).toList (token.toList.splitOn '\n') := by
  have hword : ∀ row ∈ (ofTokens tokens).rows, IsWord row.1.toList := by
    intro row hrow
    obtain ⟨⟨token, i⟩, -, rfl⟩ := List.mem_map.mp hrow
    exact isWord_toString_nat i
  rw [readRows_text_of_isWord hword, ofTokens, List.map_map]
  rfl

/-- Tables of parameters are rectangles, whatever texts their types and names are. -/
theorem isRectangular_ofParams (params : List Param) : (ofParams params).IsRectangular :=
  isRectangular (by decide : tallest ("Type", "Name") = 1)

/-- So are tables of tokens. -/
theorem isRectangular_ofTokens (tokens : List String) : (ofTokens tokens).IsRectangular :=
  isRectangular (by decide : tallest ("#", "Token") = 1)

end Table

/-! ## The canonical text -/

theorem Param.WellFormed.oneLine_text {p : Param} (h : p.WellFormed) : OneLine p.text := by
  have hspace : OneLine " " := by decide
  exact (h.type.oneLine_of_word.append hspace).append h.name.oneLine_of_word

theorem oneLine_visibilityText (visibility : Option Visibility) :
    OneLine (Signature.visibilityText visibility) := by
  cases visibility with
  | none => decide
  | some v => cases v <;> decide

/-- The canonical text is one line, for every signature that a text can hold. -/
theorem Signature.WellFormed.oneLine_canonical {d : Signature} (h : d.WellFormed) :
    OneLine d.canonical := by
  have hparams : OneLine (", ".intercalate (d.params.map Param.text)) := by
    refine oneLine_intercalate (by decide) ?_
    intro text htext
    obtain ⟨p, hp, rfl⟩ := List.mem_map.mp htext
    exact (h.params p hp).oneLine_text
  have hspace : OneLine " " := by decide
  have hopening : OneLine "(" := by decide
  have hclosing : OneLine ")" := by decide
  exact ((((((oneLine_visibilityText d.visibility).append h.returnType.oneLine_of_word).append
    hspace).append h.name.oneLine_of_word).append hopening).append hparams).append hclosing

/-! ## Runs -/

namespace CommandLine

/-- **Tables are rectangular and faithful.** The table of any parameters and that of any tokens is a
    rectangle. Let the settings be right and the format in use be the table, whether the arguments or the
    settings ask for it. Then a run for a text that holds a signature prints behind its log the canonical
    text, which is one line, and, exactly if there are parameters, a table from which their types and
    names are read back in the order of the declaration, a line each. A run for tokens prints the table
    from which those at the delimiters in use are read back in their order, each under its number and line
    by line. -/
theorem run_prints_table :
    (∀ params, (Table.ofParams params).IsRectangular) ∧
      (∀ tokens, (Table.ofTokens tokens).IsRectangular) ∧
      ∀ arguments env file loaded settings, withFile env file = .ok loaded →
        Settings.read loaded = .ok settings → outputInUse settings arguments = .ok .table →
        (∀ output text, Request.ofArguments arguments = .ok (.command (.signature output text)) →
          ∀ d, Signature.parse text = .ok d →
            OneLine d.canonical ∧
              (d.params = [] → (run arguments env file).Prints (d.canonical ++ "\n")) ∧
              (d.params ≠ [] → ∃ table,
                (run arguments env file).Prints (d.canonical ++ "\n" ++ (table ++ "\n")) ∧
                  table = (Table.ofParams d.params).text ∧
                  Table.readRows table = d.params.map fun p => [(p.type.toList, p.name.toList)])) ∧
          ∀ output delimiters source,
            Request.ofArguments arguments = .ok (.command (.split output delimiters source)) →
            ∃ tokens table,
              (Splitter.ofDelimiters (delimitersInUse settings arguments)).split source = tokens ∧
                (run arguments env file).Prints (table ++ "\n") ∧
                table = (Table.ofTokens tokens).text ∧
                Table.readRows table = tokens.zipIdx.map fun (token, i) =>
                  Table.beside (toString i).toList (token.toList.splitOn '\n') := by
  refine ⟨Table.isRectangular_ofParams, Table.isRectangular_ofTokens, ?_⟩
  intro arguments env file loaded settings hload hread htable
  constructor
  · intro output text harguments d hparse
    have hprints := prints_showSignature hload hread harguments htable hparse
    have hwellFormed : d.WellFormed := findSignature?_wellFormed (parse_eq_ok_iff.mp hparse)
    refine ⟨hwellFormed.oneLine_canonical, ?_, ?_⟩
    · intro hnil
      simpa [showSignature, hnil] using hprints
    · intro hne
      rw [showSignature, if_neg (by simpa using hne)] at hprints
      exact ⟨_, hprints, rfl, Table.readRows_ofParams hwellFormed.params⟩
  · intro output delimiters source harguments
    have hsucceeds := succeedsWith_split hread harguments htable
    exact ⟨_, _, rfl, prints_of_succeedsWith hload hsucceeds, rfl, Table.readRows_ofTokens _⟩

/-- A signature with parameters and one without, and tokens with a bar, a line feed and a blank at the end,
    printed as the settings ask for. -/
theorem run_prints_table_configured :
    Settings.read tableEnvironment = .ok { output := .table } ∧
      (Table.ofTokens ["a|b", "c\nd "]).IsRectangular ∧
      (∃ table,
        (run ["signature", "int f(T x, Foo bar)"] tableEnvironment none).Prints
          ("int f(T x, Foo bar)" ++ "\n" ++ (table ++ "\n")) ∧
        Table.readRows table = [[(['T'], ['x'])], [(['F', 'o', 'o'], ['b', 'a', 'r'])]]) ∧
      (run ["signature", "void f()"] tableEnvironment none).Prints ("void f()" ++ "\n") ∧
      ∃ table,
        (run ["split", "-d", ",", "a|b,c\nd "] tableEnvironment none).Prints (table ++ "\n") ∧
          Table.readRows table = [[(['0'], ['a', '|', 'b'])], [(['1'], ['c']), ([], ['d'])]] := by
  have hload : withFile tableEnvironment none = .ok tableEnvironment := rfl
  have hread : Settings.read tableEnvironment = .ok { output := .table } :=
    Json.eq_ok_of_toOption (by decide +kernel)
  have hsignature : Request.ofArguments ["signature", "int f(T x, Foo bar)"] =
      .ok (.command (.signature none "int f(T x, Foo bar)")) := Json.eq_ok_of_toOption (by decide +kernel)
  have hparse : Signature.parse "int f(T x, Foo bar)" =
      .ok ⟨none, "int", "f", [⟨"T", "x"⟩, ⟨"Foo", "bar"⟩]⟩ := Json.eq_ok_of_toOption (by decide +kernel)
  have hsignatureTable : outputInUse { output := .table } ["signature", "int f(T x, Foo bar)"] = .ok .table :=
    Json.eq_ok_of_toOption (by decide +kernel)
  have hlone : Request.ofArguments ["signature", "void f()"] =
      .ok (.command (.signature none "void f()")) := Json.eq_ok_of_toOption (by decide +kernel)
  have hparseLone : Signature.parse "void f()" = .ok ⟨none, "void", "f", []⟩ :=
    Json.eq_ok_of_toOption (by decide +kernel)
  have hloneTable : outputInUse { output := .table } ["signature", "void f()"] = .ok .table :=
    Json.eq_ok_of_toOption (by decide +kernel)
  have hsplit : Request.ofArguments ["split", "-d", ",", "a|b,c\nd "] =
      .ok (.command (.split none [","] "a|b,c\nd ")) := Json.eq_ok_of_toOption (by decide +kernel)
  have hsplitTable : outputInUse { output := .table } ["split", "-d", ",", "a|b,c\nd "] = .ok .table :=
    Json.eq_ok_of_toOption (by decide +kernel)
  obtain ⟨-, hrectangular, hruns⟩ := run_prints_table
  obtain ⟨-, -, hparams⟩ := (hruns _ _ _ _ _ hload hread hsignatureTable).1 _ _ hsignature _ hparse
  obtain ⟨-, hnone, -⟩ := (hruns _ _ _ _ _ hload hread hloneTable).1 _ _ hlone _ hparseLone
  obtain ⟨table, hprints, -, hrows⟩ := hparams (by decide)
  obtain ⟨tokens, tokenTable, htokens, hprintsTokens, -, hrowsTokens⟩ :=
    (hruns _ _ _ _ _ hload hread hsplitTable).2 _ _ _ hsplit
  obtain rfl : tokens = ["a|b", "c\nd "] := by
    rw [← htokens]
    decide +kernel
  refine ⟨hread, hrectangular _, ⟨table, hprints, ?_⟩, hnone rfl, tokenTable, hprintsTokens, ?_⟩
  · rw [hrows]
    decide +kernel
  · rw [hrowsTokens]
    decide +kernel

end CommandLine

end MethodSig
