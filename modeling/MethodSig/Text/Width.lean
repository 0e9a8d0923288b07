import MethodSig.Text.Onset

/-!
# `Width` — how many terminal columns a text takes

The columns of a text on one line are counted from its end, one character at a time. A space fuses
with nothing on either side, so it cuts a text into parts whose widths add up; the law `width_space`
says so, and it makes the lines of a table as wide as their parts.
-/

namespace MethodSig.Text

/-- The columns of a text that are settled, whatever stands in front of it, and how it opens. -/
def measure : List Char → Nat × Opening
  | [] => (0, {})
  | c :: s =>
    let (settled, opening) := measure s
    let (more, opening) := opening.before c
    (settled + more, opening)

/-- Columns of a text on one line. -/
def width (s : List Char) : Nat := (measure s).1 + (measure s).2.onset.held

/-! ## Laws -/

@[simp] theorem measure_nil : measure [] = (0, {}) := rfl

theorem measure_cons (c : Char) (s : List Char) :
    measure (c :: s) = ((measure s).1 + ((measure s).2.before c).1, ((measure s).2.before c).2) :=
  rfl

@[simp] theorem width_nil : width [] = 0 := rfl

theorem Opening.held_unselected (o : Opening) : o.unselected.held = o.onset.held := by
  unfold Opening.unselected
  split
  case isTrue h =>
    rcases (by simpa [Opening.isJoined] using h : _ ∧ (_ ∨ _)).2 with h | h <;> simp [h, Onset.held]
  case isFalse => rfl

/-- Whether `c` settles what is behind it: it takes one column, and no selector changes it. -/
def isSettled (c : Char) : Bool := c.toNat ≤ 0xA0 && !hasPictureStyle c

theorem isSettled_space : isSettled ' ' = true := by decide +kernel

theorem Opening.selected?_of_isSettled {c : Char} (h : isSettled c = true) (o : Opening) :
    o.selected? c = none := by
  obtain ⟨hc, hp⟩ : c.toNat ≤ 0xA0 ∧ hasPictureStyle c = false := by simpa [isSettled] using h
  have ht : narrowsAsText c = false := by
    simp only [hasPictureStyle, Bool.or_eq_false_iff] at hp
    simp [narrowsAsText, hp.2]
  have hq : isSelectableQuote c = false := by
    unfold isSelectableQuote
    simp only [Bool.or_eq_false_iff, decide_eq_false_iff_not]
    refine ⟨⟨⟨?_, ?_⟩, ?_⟩, ?_⟩ <;> rintro rfl <;> exact absurd hc (by decide)
  simp [Opening.selected?, hp, ht, hq]

/-- In front of any text a settled character takes one column and opens plainly. -/
theorem measure_cons_of_isSettled {c : Char} (h : isSettled c = true) (s : List Char) :
    measure (c :: s) = (width s + 1, {}) := by
  have hc : c.toNat ≤ 0xA0 := (by simpa [isSettled] using h : _ ∧ _).1
  simp [measure_cons, Opening.before, Opening.selected?_of_isSettled h, hc,
    Opening.held_unselected, width, Nat.add_assoc]

theorem width_cons_of_isSettled {c : Char} (h : isSettled c = true) (s : List Char) :
    width (c :: s) = width s + 1 := by
  simp [width, measure_cons_of_isSettled h, Onset.held]

/-- In front of a text that opens plainly, a text is measured as on its own. -/
theorem measure_append {t : List Char} (h : (measure t).2 = {}) (s : List Char) :
    measure (s ++ t) = ((measure t).1 + (measure s).1, (measure s).2) := by
  induction s with
  | nil => exact Prod.ext rfl h
  | cons c s ih => rw [List.cons_append, measure_cons, ih, measure_cons, Nat.add_assoc]

/-- A settled character takes one column between any two texts. -/
theorem width_append_cons {c : Char} (h : isSettled c = true) (s t : List Char) :
    width (s ++ c :: t) = width s + 1 + width t := by
  have hs : (measure (c :: t)).2 = {} := by rw [measure_cons_of_isSettled h]
  rw [width, measure_append hs, measure_cons_of_isSettled h]
  simp only [width]
  omega

/-- A space is one column wide between any two texts. -/
theorem width_space (s t : List Char) : width (s ++ ' ' :: t) = width s + 1 + width t :=
  width_append_cons isSettled_space s t

/-- Padding with spaces widens a text by their number. -/
theorem width_append_replicate (s : List Char) (n : Nat) :
    width (s ++ List.replicate n ' ') = width s + n := by
  cases n with
  | zero => simp
  | succ n =>
    rw [List.replicate_succ, width_space]
    have : width (List.replicate n ' ') = n := by
      induction n with
      | zero => rfl
      | succ n ih => rw [List.replicate_succ, width_cons_of_isSettled isSettled_space, ih]
    omega

end MethodSig.Text
