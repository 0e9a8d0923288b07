import MethodSig.Proofs.Configured
import Mathlib.Data.List.DropRight

/-!
# `Proofs.FileText` — what a file of plain and single-quoted values says

A file of variables is put together from lines (`FileLine`): blank ones, comments, and assignments
`KEY=value` whose value stands as it is or between single quotes. Such a file makes the assignments that
are written in it and no others (`assignments_fileText`).

To find where a line ends, reading goes through states of quoting. `Passes` says that a piece of text takes
one state into another without ending a line; each part of a line passes on its own, and a line is the
parts one after another.

Not every value can stand in a file as it is. A quote, a backslash, a dollar sign or white space means
something of its own, and so does a number sign in front. Between single quotes everything but a single quote
stands for itself, but the end of the line is found as if a backslash could escape the closing quote. A
value that ends in an odd number of backslashes therefore opens quotes that nothing closes.
-/

namespace MethodSig.DotEnv

variable {s t front back value current rest : List Char} {fresh fresh' fresh'' : Bool}
  {q q' q'' : Quoting} {c : Char} {key : String}

/-! ## Characters -/

/-- The character opens nothing and ends nothing: it is no white space, no quote and no backslash. -/
def isCalm (c : Char) : Bool := !(Text.isWhiteSpace c || c == '\'' || c == '"' || c == '\\')

/-- The character stands for itself in a value without quotes. -/
def standsForItself (c : Char) : Bool := isCalm c && c != '$'

theorem isCalm_iff : isCalm c = true ↔
    Text.isWhiteSpace c = false ∧ c ≠ '\'' ∧ c ≠ '"' ∧ c ≠ '\\' := by
  simp [isCalm, and_assoc]

theorem standsForItself_iff : standsForItself c = true ↔ isCalm c = true ∧ c ≠ '$' := by
  simp [standsForItself]

/-- Letters and digits are no white space. -/
theorem isWhiteSpace_of_isAlphanum (h : c.isAlphanum = true) : Text.isWhiteSpace c = false := by
  change ((decide ('A'.val ≤ c.val ∧ c.val ≤ 'Z'.val) ||
    decide ('a'.val ≤ c.val) && decide (c.val ≤ 'z'.val)) ||
    decide ('0'.val ≤ c.val) && decide (c.val ≤ '9'.val)) = true at h
  simp only [Bool.or_eq_true, Bool.and_eq_true, decide_eq_true_eq, UInt32.le_iff_toNat_le] at h
  change ((65 ≤ c.toNat ∧ c.toNat ≤ 90) ∨ (97 ≤ c.toNat ∧ c.toNat ≤ 122)) ∨
    (48 ≤ c.toNat ∧ c.toNat ≤ 57) at h
  simp only [Text.isWhiteSpace, Bool.or_eq_false_iff, Bool.and_eq_false_iff, decide_eq_false_iff_not,
    beq_eq_false_iff_ne]
  omega

theorem isCalm_of_isKeyChar (h : isKeyChar c = true) : isCalm c = true := by
  rw [isCalm_iff]
  simp only [isKeyChar, Bool.or_eq_true, beq_iff_eq, or_assoc] at h
  rcases h with h | rfl | rfl
  · refine ⟨isWhiteSpace_of_isAlphanum h, ?_, ?_, ?_⟩ <;>
      · rintro rfl
        exact absurd h (by decide)
  · decide
  · decide

/-- A key begins with one of its characters. -/
theorem isKeyChar_of_isKeyStart (h : isKeyStart c = true) : isKeyChar c = true := by
  simp only [isKeyStart, Bool.or_eq_true, beq_iff_eq] at h
  rcases h with h | rfl
  · simp [isKeyChar, Char.isAlphanum, h]
  · decide

/-! ## Where a line ends -/

/-- The character is part of the line, unless it begins a comment or ends the line. -/
theorem linesFrom_cons (hcomment : c = '#' → fresh = false ∧ q ≠ .blank)
    (hend : c = '\n' → q.next c ≠ .plain) :
    linesFrom (.text fresh q) current (c :: rest) =
      linesFrom (.text (fresh && Text.isWhiteSpace c) (q.next c)) (c :: current) rest := by
  have hnot : ¬ (c = '#' ∧ (fresh = true ∨ q = .blank)) := by
    rintro ⟨hc, hstate⟩
    obtain ⟨hfresh, hq⟩ := hcomment hc
    rcases hstate with h | h
    · rw [hfresh] at h
      cases h
    · exact hq h
  have hgoes : ¬ (c = '\n' ∧ q.next c = .plain) := fun h => hend h.1 h.2
  rw [linesFrom, if_neg hnot, if_neg hgoes]

/-- **Reading `s` takes one state into another** and does not end the line. -/
def Passes (fresh : Bool) (q : Quoting) (s : List Char) (fresh' : Bool) (q' : Quoting) : Prop :=
  ∀ current rest, linesFrom (.text fresh q) current (s ++ rest) =
    linesFrom (.text fresh' q') (s.reverse ++ current) rest

theorem Passes.nil (fresh : Bool) (q : Quoting) : Passes fresh q [] fresh q := fun _ _ => rfl

theorem Passes.append (hs : Passes fresh q s fresh' q') (ht : Passes fresh' q' t fresh'' q'') :
    Passes fresh q (s ++ t) fresh'' q'' := by
  intro current rest
  rw [List.append_assoc, hs, ht, List.reverse_append, List.append_assoc]

theorem Passes.cons (hcomment : c = '#' → fresh = false ∧ q ≠ .blank) (hend : c = '\n' → q.next c ≠ .plain)
    (hs : Passes (fresh && Text.isWhiteSpace c) (q.next c) s fresh' q') :
    Passes fresh q (c :: s) fresh' q' := by
  intro current rest
  rw [List.cons_append, linesFrom_cons hcomment hend, hs, List.reverse_cons, List.append_assoc]
  rfl

/-- The state is outside quotes. -/
def Quoting.IsOutside (q : Quoting) : Prop := q = .plain ∨ q = .blank

theorem Quoting.next_of_isCalm (hq : q.IsOutside) (hc : isCalm c = true) : q.next c = .plain := by
  obtain ⟨hwhite, hsingle, hdouble, hbackslash⟩ := isCalm_iff.mp hc
  rcases hq with rfl | rfl <;> simp [Quoting.next, Quoting.opened, hwhite, hsingle, hdouble, hbackslash]

theorem Quoting.isOutside_next_of_isWhiteSpace (hq : q.IsOutside) (hc : Text.isWhiteSpace c = true) :
    (q.next c).IsOutside := by
  have hopened : Quoting.opened c = .plain := by
    have hne : ∀ {d}, Text.isWhiteSpace d = false → c ≠ d := by
      rintro d hd rfl
      rw [hd] at hc
      cases hc
    rw [Quoting.opened, if_neg (hne (by decide)), if_neg (hne (by decide)), if_neg (hne (by decide))]
  rcases hq with rfl | rfl
  · rw [Quoting.next]
    split
    · exact Or.inr rfl
    · exact Or.inl hopened
  · exact Or.inl hopened

/-- White space within a line. -/
def IsIndent (s : List Char) : Prop := Text.IsWhite s ∧ '\n' ∉ s

instance (s : List Char) : Decidable (IsIndent s) := inferInstanceAs (Decidable (_ ∧ _))

/-- White space leaves a line that has nothing else as it is. -/
theorem Passes.of_isIndent (hs : IsIndent s) (hq : q.IsOutside) (fresh : Bool) :
    ∃ q' : Quoting, q'.IsOutside ∧ Passes fresh q s fresh q' := by
  induction s generalizing q with
  | nil => exact ⟨q, hq, .nil fresh q⟩
  | cons c s ih =>
      obtain ⟨hwhite, hline⟩ := hs
      obtain ⟨hc, hwhite⟩ := List.forall_mem_cons.mp hwhite
      obtain ⟨hfeed, hline⟩ := not_or.mp (List.mem_cons.not.mp hline)
      obtain ⟨q', hq', hpasses⟩ := ih ⟨hwhite, hline⟩ (Quoting.isOutside_next_of_isWhiteSpace hq hc)
      refine ⟨q', hq', .cons ?_ (fun h => absurd h.symm hfeed) (by rwa [hc, Bool.and_true])⟩
      rintro rfl
      exact absurd hc (by decide)

/-- Characters that open nothing and end nothing. -/
theorem Passes.of_isCalm (hs : ∀ c ∈ s, isCalm c = true) : Passes false .plain s false .plain := by
  induction s with
  | nil => exact .nil false .plain
  | cons c s ih =>
      obtain ⟨hc, hs⟩ := List.forall_mem_cons.mp hs
      refine .cons (fun _ => ⟨rfl, by simp⟩) ?_ ?_
      · rintro rfl
        exact absurd hc (by decide)
      · rw [Quoting.next_of_isCalm (Or.inl rfl) hc]
        exact ih hs

/-- The number of backslashes at the end of a text. -/
def closingBackslashes (s : List Char) : Nat := (s.rtakeWhile (· == '\\')).length

theorem closingBackslashes_concat (s : List Char) (c : Char) :
    closingBackslashes (s ++ [c]) = if c = '\\' then closingBackslashes s + 1 else 0 := by
  rw [closingBackslashes, List.rtakeWhile_concat]
  by_cases hc : c = '\\'
  · simp [hc, closingBackslashes]
  · simp [hc]

/-- The state behind a text between single quotes: an odd number of backslashes escapes what follows. -/
def singleBehind (s : List Char) : Quoting :=
  if closingBackslashes s % 2 = 0 then .single else .singleEscaped

theorem singleBehind_concat (hc : c ≠ '\'') :
    (singleBehind s).next c = singleBehind (s ++ [c]) := by
  unfold singleBehind
  rw [closingBackslashes_concat]
  by_cases hbackslash : c = '\\'
  · subst hbackslash
    by_cases heven : closingBackslashes s % 2 = 0
    · have hodd : ¬ (closingBackslashes s + 1) % 2 = 0 := by omega
      rw [if_pos heven, if_pos rfl, if_neg hodd]
      rfl
    · have heven' : (closingBackslashes s + 1) % 2 = 0 := by omega
      rw [if_neg heven, if_pos rfl, if_pos heven']
      rfl
  · rw [if_neg hbackslash, if_pos (Nat.zero_mod 2)]
    split
    · rw [Quoting.next, if_neg hbackslash, if_neg hc]
    · rfl

/-- **Between single quotes** a line does not end, whatever stands there. -/
theorem Passes.single (hs : '\'' ∉ s) : Passes false .single s false (singleBehind s) := by
  induction s using List.reverseRecOn with
  | nil => exact .nil false .single
  | append_singleton s c ih =>
      obtain ⟨hs, hc⟩ := not_or.mp (List.mem_append.not.mp hs)
      have hc : c ≠ '\'' := fun h => hc (h ▸ List.mem_singleton_self c)
      have hnext : (singleBehind s).next c = singleBehind (s ++ [c]) := singleBehind_concat hc
      refine (ih hs).append (.cons (fun _ => ⟨rfl, ?_⟩) (fun _ => ?_) ?_)
      · unfold singleBehind
        split <;> simp
      · rw [hnext]
        unfold singleBehind
        split <;> simp
      · rw [hnext]
        exact .nil false _

/-! ## Lines -/

/-- How a value is written. -/
inductive ValueForm where
  /-- As it stands. -/
  | plain
  /-- Between single quotes. -/
  | quoted
deriving DecidableEq

/-- The text of a value. -/
def ValueForm.text (value : List Char) : ValueForm → List Char
  | plain => value
  | quoted => '\'' :: value ++ ['\'']

/-- The value can be written in this form. As it stands it has only characters that stand for themselves and
    does not begin as a comment does; between quotes it has no single quote, and the backslashes at its
    end escape each other and not the closing quote. -/
def ValueForm.Takes (value : List Char) : ValueForm → Prop
  | plain => value.head? ≠ some '#' ∧ value.all standsForItself = true
  | quoted => '\'' ∉ value ∧ closingBackslashes value % 2 = 0

instance (value : List Char) : (form : ValueForm) → Decidable (form.Takes value)
  | .plain => inferInstanceAs (Decidable (_ ∧ _))
  | .quoted => inferInstanceAs (Decidable (_ ∧ _))

/-- The text is a key. -/
def IsKey (key : List Char) : Prop := key.head?.any isKeyStart = true ∧ key.all isKeyChar = true

instance (key : List Char) : Decidable (IsKey key) := inferInstanceAs (Decidable (_ ∧ _))

/-- A line of a file. -/
inductive FileLine where
  /-- White space, or nothing. -/
  | blank (white : List Char)
  /-- A comment behind `#`. -/
  | comment (front text : List Char)
  /-- `KEY=value`. -/
  | assignment (front : List Char) (key value : String) (form : ValueForm) (back : List Char)
deriving DecidableEq

namespace FileLine

/-- The text of a line, without a line feed at its end. -/
def text : FileLine → List Char
  | blank white => white
  | comment front text => front ++ '#' :: text
  | assignment front key value form back => front ++ (key.toList ++ '=' :: form.text value.toList) ++ back

/-- The parts of the line are what they should be. -/
def WellFormed : FileLine → Prop
  | blank white => IsIndent white
  | comment front text => IsIndent front ∧ '\n' ∉ text
  | assignment front key value form back =>
    IsIndent front ∧ IsKey key.toList ∧ form.Takes value.toList ∧ IsIndent back

instance : (line : FileLine) → Decidable line.WellFormed
  | blank white => inferInstanceAs (Decidable (IsIndent white))
  | comment .. => inferInstanceAs (Decidable (_ ∧ _))
  | assignment .. => inferInstanceAs (Decidable (_ ∧ _))

/-- The line can be the last one without a line feed: no white space follows a value. -/
def MayEnd : FileLine → Prop
  | assignment _ _ _ _ back => back = []
  | _ => True

instance : (line : FileLine) → Decidable line.MayEnd
  | blank _ => inferInstanceAs (Decidable True)
  | comment .. => inferInstanceAs (Decidable True)
  | assignment _ _ _ _ back => inferInstanceAs (Decidable (back = []))

/-- The variable to which the line gives a value, and the value. -/
def entry? : FileLine → Option (String × String)
  | assignment _ key value _ _ => some (key, value)
  | _ => none

end FileLine

/-- The lines one after another, with line feeds between them. -/
def joinedLines : List FileLine → List Char
  | [] => []
  | [line] => line.text
  | line :: rest => line.text ++ '\n' :: joinedLines rest

/-- The text of a file. A line feed at its end stands in front of an empty line. -/
def fileText (lines : List FileLine) : String := String.ofList (joinedLines lines)

/-- The lines make up a file. -/
structure MakeUpFile (lines : List FileLine) : Prop where
  wellFormed : ∀ line ∈ lines, line.WellFormed
  mayEnd : ∀ line ∈ lines.getLast?, line.MayEnd

variable {form : ValueForm} {line : FileLine} {lines : List FileLine} {v : String}

/-! ## What a line says -/

theorem IsKey.exists_cons (h : IsKey s) :
    ∃ c rest, s = c :: rest ∧ isKeyStart c = true ∧ ∀ d ∈ s, isKeyChar d = true := by
  obtain ⟨hstart, hall⟩ := h
  cases s with
  | nil => simp at hstart
  | cons c rest => exact ⟨c, rest, rfl, by simpa using hstart, List.all_eq_true.mp hall⟩

/-- The pieces of a value that stands for itself are its characters. -/
theorem pieces?_of_standsForItself (h : ∀ c ∈ s, standsForItself c = true) :
    pieces? (.text false) s = some (s.map .char) := by
  induction s with
  | nil => rfl
  | cons c s ih =>
      obtain ⟨hc, hs⟩ := List.forall_mem_cons.mp h
      obtain ⟨hcalm, hdollar⟩ := standsForItself_iff.mp hc
      obtain ⟨hwhite, hsingle, hdouble, hbackslash⟩ := isCalm_iff.mp hcalm
      have hblank : ¬ (c = ' ' ∨ c = '\t') := by
        rintro (rfl | rfl) <;> exact absurd hwhite (by decide)
      simp [pieces?, hdollar, hbackslash, hdouble, hsingle, hblank, ih hs]

/-- Between single quotes every character is a piece. -/
theorem pieces?_single (h : '\'' ∉ s) : pieces? .single (s ++ ['\'']) = some (s.map .char) := by
  induction s with
  | nil => rfl
  | cons c s ih =>
      obtain ⟨hc, hs⟩ := not_or.mp (List.mem_cons.not.mp h)
      rw [List.cons_append, pieces?, if_neg (Ne.symm hc), ih hs]
      rfl

/-- **A value is what is written.** -/
theorem ValueForm.pieces?_text (h : form.Takes value) :
    pieces? (.text false) (form.text value) = some (value.map .char) := by
  cases form with
  | plain => exact pieces?_of_standsForItself (List.all_eq_true.mp h.2)
  | quoted =>
      show pieces? (.text false) ('\'' :: (value ++ ['\''])) = _
      rw [pieces?]
      exact pieces?_single h.1

/-- The key in front of an equals sign. -/
theorem exportedKey?_append (hkey : IsKey key.toList) (rest : List Char) :
    exportedKey? (key.toList ++ '=' :: rest) = some (key, '=' :: rest) := by
  obtain ⟨c, tail, hcons, hstart, hall⟩ := hkey.exists_cons
  have hfound : key? (key.toList ++ '=' :: rest) = some (key, '=' :: rest) := by
    have htake : (key.toList ++ '=' :: rest).takeWhile isKeyChar = key.toList := by
      rw [List.takeWhile_append_of_pos hall]
      simp [show isKeyChar '=' = false by decide]
    have hdrop : (key.toList ++ '=' :: rest).dropWhile isKeyChar = '=' :: rest := by
      rw [List.dropWhile_append_of_pos hall]
      simp [show isKeyChar '=' = false by decide]
    have htrim : Text.trimStart ('=' :: rest) = '=' :: rest := by
      simp [Text.trimStart, show Text.isWhiteSpace '=' = false by decide]
    unfold key?
    rw [htake, hdrop, htrim, hcons]
    simp only [List.cons_append, hstart, if_true]
    rw [← hcons, String.ofList_toList]
  simp [exportedKey?, hfound]

/-- The first character of a value is no white space. -/
theorem ValueForm.head?_text (h : form.Takes value) :
    ∀ c ∈ (form.text value).head?, Text.isWhiteSpace c = false := by
  intro c hc
  cases form with
  | plain =>
      have hvisible := List.all_eq_true.mp h.2 c (List.mem_of_mem_head? hc)
      exact (isCalm_iff.mp (standsForItself_iff.mp hvisible).1).1
  | quoted =>
      cases hc
      decide

/-- The last character of an assignment is no white space. -/
theorem ValueForm.getLast?_text (h : form.Takes value) :
    ∀ c ∈ ('=' :: form.text value).getLast?, Text.isWhiteSpace c = false := by
  intro c hc
  cases form with
  | plain =>
      rcases List.mem_cons.mp (List.mem_of_mem_getLast? hc) with rfl | hmem
      · decide
      · exact (isCalm_iff.mp (standsForItself_iff.mp (List.all_eq_true.mp h.2 c hmem)).1).1
  | quoted =>
      have hlast : ('=' :: ValueForm.quoted.text value).getLast? = some '\'' := by
        simp [ValueForm.text, List.getLast?_cons]
      rw [hlast] at hc
      cases hc
      decide

/-- The rest of a line behind the equals sign does not begin a comment. -/
theorem ValueForm.head?_text_ne (h : form.Takes value) : (form.text value).head? ≠ some '#' := by
  cases form with
  | plain => exact h.1
  | quoted => simp [ValueForm.text]

/-- **An assignment says what is written.** -/
theorem assignment?_around (hfront : Text.IsWhite front) (hback : Text.IsWhite back) (hkey : IsKey key.toList)
    (h : form.Takes value) :
    assignment? (front ++ (key.toList ++ '=' :: form.text value) ++ back) =
      some (some ⟨key, value.map .char⟩) := by
  obtain ⟨c, tail, hcons, hstart, -⟩ := hkey.exists_cons
  have hcalm : isCalm c = true := isCalm_of_isKeyChar (isKeyChar_of_isKeyStart hstart)
  have htrim : Text.trimStart (Text.trimEnd (front ++ (key.toList ++ '=' :: form.text value) ++ back)) =
      key.toList ++ '=' :: form.text value := by
    refine Text.trimStart_trimEnd_append hfront hback (by simp) ?_ ?_
    · intro d hd
      rw [hcons] at hd
      cases hd
      exact (isCalm_iff.mp hcalm).1
    · rw [List.getLast?_append_of_ne_nil _ (List.cons_ne_nil _ _)]
      exact ValueForm.getLast?_text h
  have hvisible : ¬ ((key.toList ++ '=' :: form.text value).isEmpty = true ∨
      (key.toList ++ '=' :: form.text value).head? = some '#') := by
    rw [hcons]
    rintro (hempty | hcomment)
    · cases hempty
    · cases hcomment
      exact absurd hstart (by decide)
  have hvalue := Text.trimStart_eq_self (ValueForm.head?_text h)
  unfold assignment?
  simp only [htrim, if_neg hvisible, exportedKey?_append hkey, Option.bind_eq_bind, Option.bind_some, hvalue]
  by_cases hempty : form.text value = []
  · -- nothing behind the equals sign is the empty value
    have hpieces := ValueForm.pieces?_text h
    rw [hempty] at hpieces ⊢
    have hnil : value.map Piece.char = [] := (Option.some.inj hpieces).symm
    rw [hnil]
    simp
  · have hnot : ¬ ((form.text value).isEmpty = true ∨ (form.text value).head? = some '#') := by
      rintro (h' | h')
      · exact hempty (List.isEmpty_iff.mp h')
      · exact ValueForm.head?_text_ne h h'
    rw [if_neg hnot, ValueForm.pieces?_text h]
    rfl

/-- A line of white space says nothing. -/
theorem assignment?_of_isWhite (h : Text.IsWhite s) : assignment? s = some none := by
  have hempty : Text.trimEnd s = [] := by
    rw [← List.nil_append s, Text.trimEnd_append h]
    rfl
  simp [assignment?, hempty, Text.trimStart]

/-! ## Reading a file -/

/-- The assignment that a line makes. -/
def FileLine.assignment? : FileLine → Option Assignment
  | assignment _ key value _ _ => some ⟨key, value.toList.map .char⟩
  | _ => none

/-- A key and what opens nothing behind it. -/
theorem Passes.of_isKey (hkey : IsKey s) (hq : q.IsOutside) (fresh : Bool) :
    Passes fresh q s false .plain := by
  obtain ⟨c, rest, rfl, hstart, hall⟩ := hkey.exists_cons
  have hcalm : ∀ d ∈ c :: rest, isCalm d = true := fun d hd => isCalm_of_isKeyChar (hall d hd)
  obtain ⟨hc, hrest⟩ := List.forall_mem_cons.mp hcalm
  refine .cons ?_ ?_ ?_
  · rintro rfl
    exact absurd hstart (by decide)
  · rintro rfl
    exact absurd hc (by decide)
  · rw [(isCalm_iff.mp hc).1, Bool.and_false, Quoting.next_of_isCalm hq hc]
    exact .of_isCalm hrest

/-- A value leaves the quotes that it opens. -/
theorem Passes.of_takes (h : form.Takes value) : Passes false .plain (form.text value) false .plain := by
  cases form with
  | plain =>
      exact .of_isCalm fun c hc => (standsForItself_iff.mp (List.all_eq_true.mp h.2 c hc)).1
  | quoted =>
      have hclosing : singleBehind value = .single := if_pos h.2
      have hbetween : Passes false .single value false .single := hclosing ▸ Passes.single h.1
      have hopen : Passes false .plain ['\''] false .single :=
        .cons (by decide) (by decide) (.nil _ _)
      have hclose : Passes false .single ['\''] false .plain :=
        .cons (by decide) (by decide) (.nil _ _)
      exact (hopen.append hbetween).append hclose

/-- The text of an assignment up to the white space behind it. -/
theorem Passes.of_assignment (hfront : IsIndent front) (hkey : IsKey s) (h : form.Takes value) :
    Passes true .plain (front ++ (s ++ '=' :: form.text value)) false .plain := by
  obtain ⟨q, hq, hindent⟩ := Passes.of_isIndent hfront (Or.inl rfl) true
  have hequals : Passes false .plain ['='] false .plain :=
    .of_isCalm (List.all_eq_true.mp (by decide))
  exact hindent.append ((Passes.of_isKey hkey hq true).append (hequals.append (.of_takes h)))

/-- A line ends at a line feed outside quotes. -/
theorem linesFrom_newline (hq : q.IsOutside) (fresh : Bool) (current rest : List Char) :
    linesFrom (.text fresh q) current ('\n' :: rest) =
      current.reverse :: linesFrom (.text true .plain) [] rest := by
  have hnext : q.next '\n' = .plain := by
    rcases hq with rfl | rfl <;> decide
  rw [linesFrom, if_neg (by simp), if_pos ⟨rfl, hnext⟩]

/-- A comment goes on to the end of its line. -/
theorem linesFrom_comment (h : '\n' ∉ s) (current rest : List Char) :
    linesFrom .comment current (s ++ rest) = linesFrom .comment current rest := by
  induction s with
  | nil => rfl
  | cons c s ih =>
      obtain ⟨hc, hs⟩ := not_or.mp (List.mem_cons.not.mp h)
      rw [List.cons_append, linesFrom, if_neg (Ne.symm hc), ih hs]

/-- White space and the number sign behind it. -/
theorem linesFrom_hash (h : IsIndent front) (rest : List Char) :
    linesFrom (.text true .plain) [] (front ++ '#' :: rest) = linesFrom .comment front.reverse rest := by
  obtain ⟨q, -, hindent⟩ := Passes.of_isIndent h (Or.inl rfl) true
  rw [hindent, List.append_nil, linesFrom, if_pos ⟨rfl, Or.inl rfl⟩]

/-- **A line with its line feed** makes its assignment, and reading goes on behind it. -/
theorem assignmentsFrom_line (h : line.WellFormed) (rest : List Char) :
    assignmentsFrom (linesFrom (.text true .plain) [] (line.text ++ '\n' :: rest)) =
      line.assignment?.toList ++ assignmentsFrom (linesFrom (.text true .plain) [] rest) := by
  cases line with
  | blank white =>
      obtain ⟨q, hq, hindent⟩ := Passes.of_isIndent h (Or.inl rfl) true
      rw [FileLine.text, hindent, linesFrom_newline hq, List.append_nil, List.reverse_reverse,
        assignmentsFrom, assignment?_of_isWhite h.1]
      rfl
  | comment front text =>
      rw [FileLine.text, List.append_assoc, List.cons_append, linesFrom_hash h.1, linesFrom_comment h.2,
        linesFrom, if_pos rfl, List.reverse_reverse, assignmentsFrom, assignment?_of_isWhite h.1.1]
      rfl
  | assignment front key value form back =>
      obtain ⟨hfront, hkey, hvalue, hback⟩ := h
      obtain ⟨q, hq, hindent⟩ := Passes.of_isIndent hback (Or.inl rfl) false
      have hpasses := (Passes.of_assignment hfront hkey hvalue).append hindent
      rw [FileLine.text, hpasses, linesFrom_newline hq, List.append_nil, List.reverse_reverse,
        assignmentsFrom, assignment?_around hfront.1 hback.1 hkey hvalue]
      rfl

/-- **The last line**, without a line feed. -/
theorem assignmentsFrom_lastLine (h : line.WellFormed) (hend : line.MayEnd) :
    assignmentsFrom (linesFrom (.text true .plain) [] line.text) = line.assignment?.toList := by
  cases line with
  | blank white =>
      obtain ⟨q, hq, hindent⟩ := Passes.of_isIndent h (Or.inl rfl) true
      have htext := hindent [] []
      rw [List.append_nil] at htext
      rw [FileLine.text, htext]
      rcases hq with rfl | rfl
      · rw [linesFrom, List.append_nil, List.reverse_reverse, assignmentsFrom,
          assignment?_of_isWhite h.1]
        rfl
      · rfl
  | comment front text =>
      have htext := linesFrom_comment h.2 front.reverse []
      rw [List.append_nil] at htext
      rw [FileLine.text, linesFrom_hash h.1, htext, linesFrom, List.reverse_reverse, assignmentsFrom,
        assignment?_of_isWhite h.1.1]
      rfl
  | assignment front key value form back =>
      obtain ⟨hfront, hkey, hvalue, hback⟩ := h
      obtain rfl : back = [] := hend
      have htext := Passes.of_assignment hfront hkey hvalue [] []
      have hsays := assignment?_around hfront.1 hback.1 hkey hvalue
      rw [List.append_nil] at htext hsays
      rw [FileLine.text, List.append_nil, htext, linesFrom, List.append_nil, List.reverse_reverse,
        assignmentsFrom, hsays]
      rfl

theorem MakeUpFile.tail {other : FileLine} (h : MakeUpFile (line :: other :: lines)) :
    MakeUpFile (other :: lines) where
  wellFormed := (List.forall_mem_cons.mp h.wellFormed).2
  mayEnd := by
    have hlast := h.mayEnd
    rwa [List.getLast?_cons_cons] at hlast

theorem assignmentsFrom_joinedLines (h : MakeUpFile lines) :
    assignmentsFrom (linesFrom (.text true .plain) [] (joinedLines lines)) =
      lines.filterMap FileLine.assignment? := by
  induction lines with
  | nil => rfl
  | cons line rest ih =>
      have hline : line.WellFormed := h.wellFormed line List.mem_cons_self
      cases rest with
      | nil =>
          rw [joinedLines, assignmentsFrom_lastLine hline (h.mayEnd line rfl)]
          cases line <;> rfl
      | cons other rest =>
          rw [joinedLines, assignmentsFrom_line hline, ih h.tail]
          · cases line <;> rfl
          · simp

/-- No line begins with a byte order mark. -/
theorem FileLine.head?_text (h : line.WellFormed) : line.text.head? ≠ some '\uFEFF' := by
  -- white space in front of something else
  have behind : ∀ {front s : List Char}, IsIndent front → s.head? ≠ some '\uFEFF' →
      (front ++ s).head? ≠ some '\uFEFF' := by
    intro front s hfront hs
    cases front with
    | nil => exact hs
    | cons c front =>
        rintro hc
        cases hc
        exact absurd (List.forall_mem_cons.mp hfront.1).1 (by decide)
  cases line with
  | blank white =>
      rw [FileLine.text, ← List.append_nil white]
      exact behind h (by simp)
  | comment front text => exact behind h.1 (by simp)
  | assignment front key value form back =>
      obtain ⟨hfront, hkey, -, -⟩ := h
      obtain ⟨c, rest, hcons, hstart, -⟩ := hkey.exists_cons
      rw [FileLine.text, List.append_assoc]
      apply behind hfront
      rw [hcons]
      rintro hc
      cases hc
      exact absurd hstart (by decide)

theorem head?_joinedLines (h : MakeUpFile lines) : (joinedLines lines).head? ≠ some '\uFEFF' := by
  cases lines with
  | nil => simp [joinedLines]
  | cons line rest =>
      have hline := FileLine.head?_text (h.wellFormed line List.mem_cons_self)
      cases rest with
      | nil => exact hline
      | cons other rest =>
          rw [joinedLines]
          · cases htext : line.text with
            | nil => simp
            | cons c s =>
                rw [htext] at hline
                exact hline
          · simp

theorem behindMark_of_head? (h : s.head? ≠ some '\uFEFF') : behindMark s = s := by
  unfold behindMark
  split
  · exact absurd rfl h
  · rfl

/-- **A file makes the assignments that are written in it**, and no others. -/
theorem assignments_fileText (h : MakeUpFile lines) :
    assignments (fileText lines) = lines.filterMap FileLine.assignment? := by
  rw [assignments, fileText, String.toList_ofList, behindMark_of_head? (head?_joinedLines h)]
  exact assignmentsFrom_joinedLines h

end MethodSig.DotEnv
