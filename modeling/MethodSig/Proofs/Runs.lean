import MethodSig.Scan
import Mathlib.Data.List.DropRight
import Mathlib.Data.List.TakeWhile

/-!
# `Proofs.Runs` — words and blanks as parts of a text

`run?` takes a run whole. Here a run is what it is made of, a part of a text with at least one
character, all of one class, and the two are brought together: `run?` succeeds exactly where the text
begins with a run, and what follows the run it takes does not begin with a character of the class
(`run?_eq_some_iff_append`).

No character is both a word character and a blank. A *separator* is neither; where one stands, every
run before it ends, so reading a run does not depend on what stands behind a separator
(`run?_append_cons`).

A text ends with a run as it begins with one, seen from behind (`IsRun.rtakeWhile_append`). What stands
behind a text that does not end with a run does not make a run in it longer.
-/

namespace MethodSig

/-! ## Runs -/

/-- A part of a text that is a run of class `p`. It need not be a maximal one. -/
structure IsRun (p : Char → Bool) (w : List Char) : Prop where
  /-- There is at least one character. -/
  ne_nil : w ≠ []
  /-- Every character is of the class. -/
  all : ∀ c ∈ w, p c = true

/-- A word. -/
abbrev IsWord : List Char → Prop := IsRun isWordChar

/-- Blanks between words. -/
abbrev IsBlanks : List Char → Prop := IsRun isBlank

/-- Whether the text is a run, decided character by character. -/
theorem isRun_iff {p : Char → Bool} {w : List Char} :
    IsRun p w ↔ (!w.isEmpty && w.all p) = true := by
  rw [Bool.and_eq_true, Bool.not_eq_true', List.isEmpty_eq_false_iff, List.all_eq_true]
  exact ⟨fun h => ⟨h.ne_nil, h.all⟩, fun h => ⟨h.1, h.2⟩⟩

instance (p : Char → Bool) (w : List Char) : Decidable (IsRun p w) :=
  decidable_of_iff _ isRun_iff.symm

/-- The text does not begin with a character of class `p`. -/
def Stops (p : Char → Bool) (s : List Char) : Prop := ∀ c ∈ s.head?, p c = false

variable {p q : Char → Bool} {c : Char} {w s rest : List Char}

@[simp] theorem stops_nil : Stops p [] := by simp [Stops]

@[simp] theorem stops_cons : Stops p (c :: s) ↔ p c = false := by simp [Stops]

theorem Stops.append_cons (hs : Stops p s) (hc : p c = false) : Stops p (s ++ c :: rest) := by
  cases s with
  | nil => exact stops_cons.mpr hc
  | cons d s => exact stops_cons.mpr (stops_cons.mp hs)

theorem IsRun.exists_cons_append (hw : IsRun p w) :
    ∃ c tail, w ++ rest = c :: tail ∧ p c = true := by
  cases w with
  | nil => exact absurd rfl hw.ne_nil
  | cons c w => exact ⟨c, w ++ rest, rfl, hw.all c List.mem_cons_self⟩

/-- A run of another class stops a run. -/
theorem IsRun.stops_append (hw : IsRun q w) (hqp : ∀ c, q c = true → p c = false) :
    Stops p (w ++ rest) := by
  obtain ⟨c, tail, heq, hc⟩ : ∃ c tail, w ++ rest = c :: tail ∧ q c = true := hw.exists_cons_append
  rw [heq, stops_cons]
  exact hqp c hc

/-- **A run is taken whole.** `run?` finds a run exactly where the text is one followed by a text that
    does not go on with the class. -/
theorem run?_eq_some_iff_append :
    run? p s = some (w, rest) ↔ IsRun p w ∧ Stops p rest ∧ s = w ++ rest := by
  rw [run?_eq_some_iff]
  constructor
  · rintro ⟨hne, rfl, rfl⟩
    refine ⟨⟨hne, fun c hc => List.mem_takeWhile_imp hc⟩, ?_, List.takeWhile_append_dropWhile.symm⟩
    intro c hc
    have hnot := List.head?_dropWhile_not p s
    rw [Option.mem_def.mp hc] at hnot
    exact hnot
  · rintro ⟨hw, hstop, rfl⟩
    refine ⟨hw.ne_nil, ?_, ?_⟩
    · rw [List.takeWhile_append_of_pos hw.all]
      cases rest with
      | nil => simp
      | cons c rest => simp [stops_cons.mp hstop]
    · rw [List.dropWhile_append_of_pos hw.all]
      cases rest with
      | nil => simp
      | cons c rest => simp [stops_cons.mp hstop]

theorem IsRun.run?_append (hw : IsRun p w) (hstop : Stops p rest) :
    run? p (w ++ rest) = some (w, rest) :=
  run?_eq_some_iff_append.mpr ⟨hw, hstop, rfl⟩

theorem run?_eq_none_iff : run? p s = none ↔ Stops p s := by
  cases s with
  | nil => simp [run?]
  | cons c s =>
      rw [stops_cons]
      by_cases hc : p c = true
      · simp [run?, hc]
      · rw [Bool.not_eq_true] at hc
        simp [run?, hc]

/-- **A character outside the class ends a run**, wherever the run began: what stands behind it does
    not matter. -/
theorem run?_append_cons (hc : p c = false) :
    run? p (s ++ c :: rest) = (run? p s).map fun r => (r.1, r.2 ++ c :: rest) := by
  cases hr : run? p s with
  | none => exact run?_eq_none_iff.mpr ((run?_eq_none_iff.mp hr).append_cons hc)
  | some found =>
      obtain ⟨w, r⟩ := found
      obtain ⟨hw, hstop, rfl⟩ := run?_eq_some_iff_append.mp hr
      rw [List.append_assoc]
      exact hw.run?_append (hstop.append_cons hc)

/-! ## The end of a text -/

/-- The text does not end with a character of class `p`. -/
def StopsBack (p : Char → Bool) (s : List Char) : Prop := ∀ c ∈ s.getLast?, p c = false

theorem stopsBack_iff_reverse : StopsBack p s ↔ Stops p s.reverse := by
  rw [StopsBack, Stops, List.head?_reverse]

theorem IsRun.reverse (hw : IsRun p w) : IsRun p w.reverse :=
  ⟨by simpa using hw.ne_nil, fun c hc => hw.all c (List.mem_reverse.mp hc)⟩

/-- A run at the end of a text that is not preceded by its class is the longest there. -/
theorem IsRun.rtakeWhile_append (hw : IsRun p w) (hs : StopsBack p s) :
    (s ++ w).rtakeWhile p = w := by
  have hrun := run?_eq_some_iff.mp (hw.reverse.run?_append (stopsBack_iff_reverse.mp hs))
  rw [List.rtakeWhile, List.reverse_append, hrun.2.1, List.reverse_reverse]

theorem IsRun.rdropWhile_append (hw : IsRun p w) (hs : StopsBack p s) :
    (s ++ w).rdropWhile p = s := by
  have hrun := run?_eq_some_iff.mp (hw.reverse.run?_append (stopsBack_iff_reverse.mp hs))
  rw [List.rdropWhile, List.reverse_append, hrun.2.2, List.reverse_reverse]

/-- A text that ends in a run of another class. -/
theorem IsRun.stopsBack_append (hw : IsRun q w)
    (hqp : ∀ c, q c = true → p c = false) : StopsBack p (s ++ w) := by
  rw [stopsBack_iff_reverse, List.reverse_append]
  exact hw.reverse.stops_append hqp

theorem StopsBack.of_append (h : StopsBack p (w ++ s)) : StopsBack p s :=
  fun c hc => h c (by simp_all [List.getLast?_append])

theorem StopsBack.of_suffix (h : StopsBack p s) (hw : w <:+ s) : StopsBack p w := by
  obtain ⟨front, rfl⟩ := hw
  exact h.of_append

theorem StopsBack.tail (h : StopsBack p (c :: s)) : StopsBack p s := h.of_suffix (List.suffix_cons c s)

/-- A text that does not end with a run goes on behind it. -/
theorem IsRun.ne_nil_of_stopsBack (hw : IsRun p w) (h : StopsBack p (w ++ rest)) : rest ≠ [] := by
  rintro rfl
  rw [List.append_nil] at h
  have hlast := hw.all _ (List.getLast_mem hw.ne_nil)
  rw [h _ (List.getLast?_eq_some_getLast hw.ne_nil)] at hlast
  cases hlast

/-- What stands behind a text plays no part in how it begins. -/
theorem Stops.append_of_ne_nil (hs : Stops p s) (hne : s ≠ []) : Stops p (s ++ rest) := by
  cases s with
  | nil => exact absurd rfl hne
  | cons c s => exact stops_cons.mpr (stops_cons.mp hs)

/-! ## The two classes -/

theorem isWordChar_of_isBlank (h : isBlank c = true) : isWordChar c = false := by
  simp only [isBlank, Bool.or_eq_true, beq_iff_eq] at h
  rcases h with ((((rfl | rfl) | rfl) | rfl) | rfl) | rfl <;> decide

theorem isBlank_of_isWordChar (h : isWordChar c = true) : isBlank c = false := by
  refine Bool.eq_false_iff.mpr fun hb => ?_
  rw [isWordChar_of_isBlank hb] at h
  exact absurd h (by simp)

/-- Characters of neither class. -/
def isSeparator (c : Char) : Bool := !isWordChar c && !isBlank c

theorem isSeparator_iff : isSeparator c = true ↔ isWordChar c = false ∧ isBlank c = false := by
  simp [isSeparator]

theorem IsRun.not_separator_of_word (hw : IsWord w) : ∀ c ∈ w, isSeparator c = false := by
  intro c hc
  simp [isSeparator, hw.all c hc]

theorem IsRun.not_separator_of_blanks (hw : IsBlanks w) : ∀ c ∈ w, isSeparator c = false := by
  intro c hc
  simp [isSeparator, hw.all c hc]

end MethodSig
