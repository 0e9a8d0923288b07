import MethodSig.Proofs.Leftmost
import Mathlib.Data.List.DropRight

/-!
# `Proofs.Surroundings` — text before and behind a declaration

The search looks at whole rests of the text, so text that is added takes part in every attempt. It
changes nothing all the same.

* **Behind.** An attempt that failed in the shorter text cannot succeed in the longer one if a signature
  follows in the shorter text: the first parenthesis behind the attempt and a closing one are there
  already (`Reading.Fits.of_append`).
* **Before.** A reading cannot begin before a separator and go on behind it, nor begin with a blank. So
  text without an opening parenthesis that ends in a separator, blanks aside, is passed over
  (`findSignature?_append_separator`, `findSignature?_append_blanks`).
-/

namespace MethodSig

variable {s t y z rest : List Char} {c : Char} {d : Signature} {ρ : Reading}

/-! ## Text behind -/

/-- The first occurrence of a character is not behind any other. -/
theorem exists_append_of_notMem {a : Char} {x y w z : List Char} (hx : a ∉ x)
    (h : x ++ a :: w = y ++ a :: z) : ∃ u, y ++ [a] = x ++ a :: u := by
  induction x generalizing y with
  | nil =>
      cases y with
      | nil => exact ⟨[], rfl⟩
      | cons c y =>
          cases h
          exact ⟨y ++ [a], rfl⟩
  | cons c x ih =>
      cases y with
      | nil =>
          cases h
          exact absurd List.mem_cons_self hx
      | cons c' y =>
          obtain ⟨rfl, htail⟩ := List.cons.inj h
          obtain ⟨u, hu⟩ := ih (fun hmem => hx (List.mem_cons_of_mem c hmem)) htail
          exact ⟨u, by rw [List.cons_append, hu, List.cons_append]⟩

/-- **An attempt does not need the text behind.** A reading of a longer text shows one of the shorter
    text, if an opening and a closing parenthesis are in the shorter text. -/
theorem Reading.Fits.of_append (hclose : ')' ∈ z) (h : ρ.Fits (y ++ '(' :: z ++ t) rest) :
    ∃ (σ : Reading) (rest' : List Char), σ.Fits (y ++ '(' :: z) rest' := by
  obtain ⟨-, heading, hhead, heq⟩ := h
  rw [List.append_assoc, List.cons_append] at heq
  obtain ⟨u, hu⟩ := exists_append_of_notMem hhead.paren_notMem heq.symm
  have hclose' : ')' ∈ u ++ z := List.mem_append_right u hclose
  obtain ⟨body, rest', hbody, hnot⟩ := List.eq_append_cons_of_mem hclose'
  refine ⟨⟨ρ.visibility, ρ.returnType, ρ.name, body⟩, rest', hnot, heading, hhead, ?_⟩
  calc y ++ '(' :: z = y ++ ['('] ++ z := by simp
    _ = heading ++ '(' :: (u ++ z) := by rw [hu, List.append_assoc, List.cons_append]
    _ = heading ++ '(' :: (body ++ ')' :: rest') := by rw [hbody]

/-- **Text behind a signature is ignored.** -/
theorem findSignature?_append (h : findSignature? s = some d) (t : List Char) :
    findSignature? (s ++ t) = some d := by
  obtain ⟨i, ρ, hρ, rfl⟩ := findSignature?_eq_some_iff_leftmost.mp h
  obtain ⟨hbody, before, heading, rest, hhead, rfl, hs⟩ := Reading.fitsAt_iff.mp hρ.fits
  refine findSignature?_eq_some_iff.mpr ⟨before.length, rest ++ t, ?_, fun j hj => ?_⟩
  · have hfits : ρ.Fits (heading ++ '(' :: (ρ.body ++ ')' :: rest)) rest := ⟨hbody, heading, hhead, rfl⟩
    rw [hs, List.append_assoc, List.drop_left]
    exact signature?_eq_some_iff.mpr ⟨ρ, hfits.append t, rfl⟩
  · refine signature?_eq_none_iff.mpr fun σ rest' hσ => ?_
    -- what is left at `j` reaches over the signature, parentheses included, so `t` is not needed
    have hleft : s.drop j = before.drop j ++ heading ++ '(' :: (ρ.body ++ ')' :: rest) := by
      rw [hs, List.drop_append_of_le_length (Nat.le_of_lt hj), List.append_assoc]
    have hlen : j ≤ s.length := by
      rw [hs, List.length_append]
      omega
    rw [List.drop_append_of_le_length hlen, hleft] at hσ
    obtain ⟨σ', rest'', hσ'⟩ := hσ.of_append (by simp)
    rw [← hleft] at hσ'
    exact Nat.not_le_of_lt hj (hρ.least j σ' ⟨rest'', hσ'⟩)

/-! ## Text before -/

/-- A signature begins with a word character. -/
theorem signature?_eq_none_of_stops (hs : Stops isWordChar s) : signature? s = none := by
  refine signature?_eq_none_iff.mpr fun ρ rest hρ => ?_
  obtain ⟨-, heading, hhead, rfl⟩ := hρ
  obtain ⟨c, tail, rfl, hc⟩ := hhead.exists_cons
  rw [List.cons_append, stops_cons, hc] at hs
  exact absurd hs (by simp)

/-- No signature goes across a separator that comes before its parenthesis. -/
theorem signature?_append_separator (hc : isSeparator c = true) (hp : '(' ∉ t ++ [c]) :
    signature? (t ++ c :: s) = none := by
  refine signature?_eq_none_iff.mpr fun ρ rest hρ => ?_
  obtain ⟨-, heading, hhead, heq⟩ := hρ
  have hsep : c ∉ heading := by
    intro hmem
    rw [hhead.not_separator c hmem] at hc
    exact absurd hc (by simp)
  rcases List.append_eq_append_iff.mp heq with ⟨u, hu, htail⟩ | ⟨u, hu, htail⟩
  · -- the heading goes on behind `t`, so the separator is in it or is the parenthesis
    cases u with
    | nil =>
        cases htail
        exact hp (by simp)
    | cons c' u =>
        have hcc : c = c' := (List.cons.inj htail).1
        exact hsep (by simp [hu, hcc])
  · -- the heading ends in `t`, so the parenthesis is in `t` or is the separator
    cases u with
    | nil =>
        cases htail
        exact hp (by simp)
    | cons c' u =>
        have hcc : '(' = c' := (List.cons.inj htail).1
        exact hp (by simp [hu, ← hcc])

/-- Text up to a separator is passed over. -/
theorem findSignature?_append_separator (hc : isSeparator c = true) (hp : '(' ∉ t ++ [c]) :
    findSignature? (t ++ c :: s) = findSignature? s := by
  induction t with
  | nil =>
      have hnone : signature? ([] ++ c :: s) = none := signature?_append_separator hc hp
      rw [List.nil_append] at hnone ⊢
      exact findSignature?_cons_of_none hnone
  | cons b t ih =>
      have hnone : signature? (b :: t ++ c :: s) = none := signature?_append_separator hc hp
      rw [List.cons_append] at hnone ⊢
      rw [findSignature?_cons_of_none hnone]
      exact ih fun hmem => hp (List.mem_cons_of_mem b hmem)

/-- Blanks are passed over. -/
theorem findSignature?_append_blanks (hz : ∀ c ∈ z, isBlank c = true) :
    findSignature? (z ++ s) = findSignature? s := by
  induction z with
  | nil => rfl
  | cons c z ih =>
      have hc : isWordChar c = false := isWordChar_of_isBlank (hz c List.mem_cons_self)
      rw [List.cons_append,
        findSignature?_cons_of_none (signature?_eq_none_of_stops (stops_cons.mpr hc))]
      exact ih fun b hb => hz b (List.mem_cons_of_mem c hb)

/-- Nothing at the end of the text can be part of what follows it: without the blanks at its end it is
    empty or ends in a separator. -/
def Detached (t : List Char) : Prop :=
  t.rdropWhile isBlank = [] ∨ ∃ c, (t.rdropWhile isBlank).getLast? = some c ∧ isSeparator c = true

/-- **Detached text before a signature is ignored.** -/
theorem findSignature?_append_of_detached (hp : '(' ∉ t) (ht : Detached t) :
    findSignature? (t ++ s) = findSignature? s := by
  have hsplit : t.rdropWhile isBlank ++ t.rtakeWhile isBlank = t :=
    List.rdropWhile_append_rtakeWhile
  have hblanks : ∀ c ∈ t.rtakeWhile isBlank, isBlank c = true := fun c => List.mem_rtakeWhile_imp
  rw [← hsplit, List.append_assoc]
  -- the text is passed over in two parts, up to the last separator and the blanks behind it
  rcases ht with hnil | ⟨c, hlast, hc⟩
  · rw [hnil, List.nil_append]
    exact findSignature?_append_blanks hblanks
  · obtain ⟨front, hfront⟩ := List.getLast?_eq_some_iff.mp hlast
    have hp' : '(' ∉ front ++ [c] := by
      rw [← hfront]
      exact fun hmem => hp ((List.rdropWhile_prefix isBlank _).subset hmem)
    rw [hfront, List.append_assoc, List.singleton_append, findSignature?_append_separator hc hp']
    exact findSignature?_append_blanks hblanks

/-- **Surrounding text is ignored.** What follows an accepted text changes nothing, and neither does
    detached text without an opening parenthesis before any text. -/
theorem parse_surroundings :
    (∀ (s t : String) (d : Signature), Signature.parse s = .ok d → Signature.parse (s ++ t) = .ok d) ∧
      ∀ t s : String, '(' ∉ t.toList → Detached t.toList →
        ∀ d, Signature.parse (t ++ s) = .ok d ↔ Signature.parse s = .ok d := by
  simp only [parse_eq_ok_iff, String.toList_append]
  refine ⟨fun s t d h => findSignature?_append h t.toList, fun t s hp ht d => ?_⟩
  rw [findSignature?_append_of_detached hp ht]

theorem parse_surroundings_comment :
    Signature.parse "f(x; int g(int a)" = .ok ⟨none, "int", "g", [⟨"int", "a"⟩]⟩ ∧
      '(' ∉ "/* public */ ".toList ∧ Detached "/* public */ ".toList ∧
      Signature.parse ("f(x; int g(int a)" ++ ", b) void h()") =
        .ok ⟨none, "int", "g", [⟨"int", "a"⟩]⟩ ∧
      Signature.parse ("/* public */ " ++ "f(x; int g(int a)") =
        .ok ⟨none, "int", "g", [⟨"int", "a"⟩]⟩ := by
  have hparse : Signature.parse "f(x; int g(int a)" = .ok ⟨none, "int", "g", [⟨"int", "a"⟩]⟩ :=
    parse_eq_ok_iff.mpr (by decide +kernel)
  have hparen : '(' ∉ "/* public */ ".toList := by decide
  have hdetached : Detached "/* public */ ".toList := Or.inr ⟨'/', by decide, by decide⟩
  exact ⟨hparse, hparen, hdetached, parse_surroundings.1 _ _ _ hparse,
    (parse_surroundings.2 _ _ hparen hdetached _).mpr hparse⟩

end MethodSig
