import MethodSig.Grammar
import MethodSig.Proofs.Runs

/-!
# `Proofs.Params` — pairs and parameter lists

A pair is a word, blanks and a word that is not part of a longer one (`pair?_eq_some_iff`). A pair
holds no separator, so a separator cuts a text into two that are read apart: `paramsUntil_append_cons`
says so of a parameter list that does not stop before the separator. With the closing parenthesis as
the separator it says that what stands between the parentheses is read as if it stood alone
(`paramsUntil_append_closing`).
-/

namespace MethodSig

variable {s rest body : List Char} {c : Char}

/-! ## Pairs -/

/-- **What a pair is made of.** -/
theorem pair?_eq_some_iff {p : List Char × List Char} :
    pair? s = some (p, rest) ↔
      IsWord p.1 ∧ IsWord p.2 ∧ Stops isWordChar rest ∧
        ∃ b, IsBlanks b ∧ s = p.1 ++ b ++ p.2 ++ rest := by
  obtain ⟨r, n⟩ := p
  simp only [pair?, Option.bind_eq_bind, Option.bind_eq_some_iff, Option.pure_def,
    Option.some.injEq, Prod.mk.injEq, Prod.exists, run?_eq_some_iff_append]
  constructor
  · rintro ⟨r', _, ⟨hr, -, rfl⟩, b, _, ⟨hb, -, rfl⟩, n', rest', ⟨hn, hstop, rfl⟩, ⟨rfl, rfl⟩, rfl⟩
    exact ⟨hr, hn, hstop, b, hb, by simp⟩
  · rintro ⟨hr, hn, hstop, b, hb, rfl⟩
    have hbn : Stops isBlank (n ++ rest) := hn.stops_append fun _ => isBlank_of_isWordChar
    have hrb : Stops isWordChar (b ++ (n ++ rest)) := hb.stops_append fun _ => isWordChar_of_isBlank
    exact ⟨r, _, ⟨hr, hrb, by simp⟩, b, _, ⟨hb, hbn, rfl⟩, n, rest, ⟨hn, hstop, rfl⟩, ⟨rfl, rfl⟩, rfl⟩

/-- A pair before a separator is read without looking behind the separator. -/
theorem pair?_append_cons (hc : isSeparator c = true) :
    pair? (s ++ c :: rest) = (pair? s).map fun r => (r.1, r.2 ++ c :: rest) := by
  obtain ⟨hword, hblank⟩ := isSeparator_iff.mp hc
  simp only [pair?, word?, blanks?, Option.bind_eq_bind, run?_append_cons hword, Option.pure_def]
  cases run? isWordChar s with
  | none => rfl
  | some r =>
      simp only [Option.map_some, Option.bind_some, run?_append_cons hblank]
      cases run? isBlank r.2 with
      | none => rfl
      | some b =>
          simp only [Option.map_some, Option.bind_some, run?_append_cons hword]
          cases run? isWordChar b.2 <;> rfl

/-- A pair begins with a word character. -/
theorem pair?_eq_none_of_stops (hs : Stops isWordChar s) : pair? s = none := by
  simp [pair?, run?_eq_none_iff.mpr hs]

/-! ## Parameter lists -/

/-- **A separator cuts a parameter list**, unless the list stops before it. -/
theorem paramsUntil_append_cons (stop : Char → Bool) (hc : isSeparator c = true)
    (hbody : ∀ d ∈ body, stop d = false) :
    paramsUntil stop (body ++ c :: rest) =
      (paramsIn body ++ (paramsUntil stop (c :: rest)).1, (paramsUntil stop (c :: rest)).2) := by
  unfold paramsIn
  fun_induction paramsUntil (fun _ => false) body with
  | case1 body p r hp params rest' hrec ih =>
      have hr : ∀ d ∈ r, stop d = false := by
        obtain ⟨-, -, -, b, -, rfl⟩ := pair?_eq_some_iff.mp hp
        exact fun d hd => hbody d (List.mem_append_right _ hd)
      -- the separator does not change the pair at the front, and the rest is cut by induction
      have hp' : pair? (body ++ c :: rest) = some (p, r ++ c :: rest) := by
        rw [pair?_append_cons hc, hp]
        rfl
      rw [hrec] at ih
      rw [paramsUntil_of_pair? stop hp', ih hr]
      rfl
  | case2 hnone => simp
  | case3 d body hnone hd => exact absurd hd (by simp)
  | case4 d body hnone hd ih =>
      have hnone' : pair? (d :: (body ++ c :: rest)) = none := by
        rw [← List.cons_append, pair?_append_cons hc, hnone]
        rfl
      have hstop : stop d = false := hbody d List.mem_cons_self
      rw [List.cons_append, paramsUntil_cons stop hnone', hstop]
      exact ih fun e he => hbody e (List.mem_cons_of_mem d he)

/-- **Between the parentheses.** The list read up to the first closing parenthesis is the list in the
    text before it. -/
theorem paramsUntil_append_closing (hbody : ')' ∉ body) :
    paramsUntil (· == ')') (body ++ ')' :: rest) = (paramsIn body, ')' :: rest) := by
  have hstops : ∀ d ∈ body, (d == ')') = false := by
    intro d hd
    exact beq_eq_false_iff_ne.mpr fun h => hbody (h ▸ hd)
  have hnone : pair? (')' :: rest) = none := pair?_eq_none_of_stops (stops_cons.mpr (by decide))
  rw [paramsUntil_append_cons _ (by decide) hstops, paramsUntil_cons _ hnone]
  simp

theorem paramsIn_cons_of_not_word (hc : isWordChar c = false) : paramsIn (c :: s) = paramsIn s := by
  have hnone : pair? (c :: s) = none := pair?_eq_none_of_stops (stops_cons.mpr hc)
  rw [paramsIn, paramsUntil_cons _ hnone]
  rfl

/-- **A separator cuts a text.** No parameter is formed across it. -/
theorem paramsIn_append_cons (hc : isSeparator c = true) :
    paramsIn (body ++ c :: rest) = paramsIn body ++ paramsIn rest := by
  have hbody : ∀ d ∈ body, (fun _ : Char => false) d = false := fun _ _ => rfl
  have hrest : paramsIn (c :: rest) = paramsIn rest :=
    paramsIn_cons_of_not_word (isSeparator_iff.mp hc).1
  rw [← hrest, paramsIn, paramsUntil_append_cons _ hc hbody]
  rfl

/-- What is left behind a parameter list is the end of the text. -/
theorem paramsUntil_suffix (stop : Char → Bool) (s : List Char) : (paramsUntil stop s).2 <:+ s := by
  fun_induction paramsUntil stop s with
  | case1 s p r hp params rest hrec ih =>
      rw [hrec] at ih
      obtain ⟨-, -, -, b, -, rfl⟩ := pair?_eq_some_iff.mp hp
      exact ih.trans (List.suffix_append _ _)
  | case2 => exact List.suffix_rfl
  | case3 => exact List.suffix_rfl
  | case4 c s hnone hc ih => exact ih.trans (List.suffix_cons c s)

/-- A list is read up to its end, or to the end of the text. -/
theorem paramsUntil_rest (stop : Char → Bool) (s : List Char) :
    (paramsUntil stop s).2 = [] ∨ ∃ c rest, (paramsUntil stop s).2 = c :: rest ∧ stop c = true := by
  fun_induction paramsUntil stop s with
  | case1 s p rest hp params rest' hrec ih => rwa [hrec] at ih
  | case2 => exact Or.inl rfl
  | case3 c s hnone hc => exact Or.inr ⟨c, s, rfl, hc⟩
  | case4 c s hnone hc ih => exact ih

/-- A parameter as a text can declare it: its type and its name are words. -/
structure Param.WellFormed (p : Param) : Prop where
  /-- The type is a word. -/
  type : IsWord p.type.toList
  /-- The name is a word. -/
  name : IsWord p.name.toList

/-- **Types and names are words.** -/
theorem wellFormed_of_mem_paramsUntil (stop : Char → Bool) (s : List Char) :
    ∀ p ∈ (paramsUntil stop s).1, p.WellFormed := by
  fun_induction paramsUntil stop s with
  | case1 s p r hp params rest hrec ih =>
      rw [hrec] at ih
      obtain ⟨htype, hname, -, -⟩ := pair?_eq_some_iff.mp hp
      intro x hx
      rcases List.mem_cons.mp hx with rfl | hx
      · exact ⟨by rwa [Param.ofPair, String.toList_ofList], by rwa [Param.ofPair, String.toList_ofList]⟩
      · exact ih x hx
  | case2 => simp
  | case3 => simp
  | case4 c s hnone hc ih => exact ih

end MethodSig
