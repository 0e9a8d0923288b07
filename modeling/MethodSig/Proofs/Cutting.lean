import MethodSig.Proofs.Tokens
import Mathlib.Data.List.Forall2

/-!
# `Proofs.Cutting` — what a text is made of where it is cut

A *cutting* says how tokens and separators make up a text: a gap, then tokens with a gap behind each
one. Gaps hold separators only; tokens hold none and are not empty; and between two tokens there is a
gap, so that each token is a maximal run of characters that do not separate. The gaps at the two ends
may be empty.

Every text has a cutting (`Splitter.exists_cutting`), and whatever cutting it has, its tokens are those
that splitting gives (`Splitter.tokens_text`). Splitting therefore loses, merges and invents nothing, and it
undoes every way of joining tokens by separators.

Two splitters used one after the other cut as one splitter with the separators of both
(`Splitter.flatMap_tokens_of_or`). Behind the first splitter no token holds any of its separators, so
on each token the second and the joint splitter are the same.
-/

namespace MethodSig

variable {sep : Char → Prop} {c : Char} {piece source rest : List Char}

/-! ## Cuttings -/

/-- Tokens and gaps that make up a text. -/
structure Cutting where
  /-- The gap before the first token. -/
  lead : List Char
  /-- The tokens, each with the gap behind it. -/
  parts : List (List Char × List Char)

namespace Cutting

/-- The text that is cut. -/
def text (x : Cutting) : List Char := x.lead ++ x.parts.flatMap fun part => part.1 ++ part.2

/-- The tokens alone. -/
def tokens (x : Cutting) : List (List Char) := x.parts.map (·.1)

/-- The cutting is at the separators `sep`, and at all of them. -/
structure IsAt (x : Cutting) (sep : Char → Prop) : Prop where
  /-- The first gap holds separators only. -/
  lead : ∀ c ∈ x.lead, sep c
  /-- A token is not empty and holds no separator. -/
  token : ∀ part ∈ x.parts, part.1 ≠ [] ∧ ∀ c ∈ part.1, ¬ sep c
  /-- A gap holds separators only. -/
  gap : ∀ part ∈ x.parts, ∀ c ∈ part.2, sep c
  /-- A gap that another token follows is not empty. -/
  inner : ∀ part ∈ x.parts.dropLast, part.2 ≠ []

variable {x : Cutting}

/-- A further separator at the front. -/
theorem IsAt.cons_lead (hx : x.IsAt sep) (hc : sep c) : IsAt ⟨c :: x.lead, x.parts⟩ sep := by
  refine ⟨?_, hx.token, hx.gap, hx.inner⟩
  intro d hd
  rcases List.mem_cons.mp hd with rfl | hd
  · exact hc
  · exact hx.lead d hd

/-- A further token at the front, with a separator behind it. -/
theorem IsAt.cons_part (hx : x.IsAt sep) (hc : sep c) (hne : piece ≠ [])
    (hpiece : ∀ d ∈ piece, ¬ sep d) : IsAt ⟨[], (piece, c :: x.lead) :: x.parts⟩ sep := by
  refine ⟨by simp, ?_, ?_, ?_⟩
  · intro part hpart
    rcases List.mem_cons.mp hpart with rfl | hpart
    · exact ⟨hne, hpiece⟩
    · exact hx.token part hpart
  · intro part hpart
    rcases List.mem_cons.mp hpart with rfl | hpart
    · exact (hx.cons_lead hc).lead
    · exact hx.gap part hpart
  · intro part hpart
    -- the new part is the last one only if there is no other
    cases hparts : x.parts with
    | nil => simp [hparts] at hpart
    | cons next others =>
        rw [hparts, List.dropLast_cons_cons, List.mem_cons] at hpart
        rcases hpart with rfl | hpart
        · exact List.cons_ne_nil c x.lead
        · exact hx.inner part (by rw [hparts]; exact hpart)

/-- Without its first part a cutting is still one. -/
theorem IsAt.tail {lead : List Char} {part : List Char × List Char}
    {parts : List (List Char × List Char)} (hx : IsAt ⟨lead, part :: parts⟩ sep) :
    IsAt ⟨[], parts⟩ sep := by
  refine ⟨by simp, fun other hother => hx.token other (List.mem_cons_of_mem part hother),
    fun other hother => hx.gap other (List.mem_cons_of_mem part hother), fun other hother => ?_⟩
  have hparts : parts ≠ [] := by
    rintro rfl
    exact absurd hother (by simp)
  refine hx.inner other ?_
  show other ∈ (part :: parts).dropLast
  rw [List.dropLast_cons_of_ne_nil hparts]
  exact List.mem_cons_of_mem part hother

/-- Only the last gap may be empty. -/
theorem IsAt.gap_ne_nil {lead : List Char} {part : List Char × List Char}
    {parts : List (List Char × List Char)} (hx : IsAt ⟨lead, part :: parts⟩ sep)
    (hparts : parts ≠ []) : part.2 ≠ [] := by
  refine hx.inner part ?_
  show part ∈ (part :: parts).dropLast
  rw [List.dropLast_cons_of_ne_nil hparts]
  exact List.mem_cons_self

end Cutting

/-! ## Splitting and cuttings -/

namespace Splitter

variable {s a b : Splitter} {x : Cutting} {gap : List Char}

/-- What separates for a splitter. -/
def Separates (s : Splitter) (c : Char) : Prop := s.isSeparator c = true

/-- Separators at the front of a text make no token. -/
theorem tokens_append_of_gap (h : ∀ c ∈ gap, s.Separates c) :
    s.tokens (gap ++ rest) = s.tokens rest := by
  induction gap with
  | nil => rfl
  | cons c gap ih =>
      rw [List.cons_append, tokens_cons (h c List.mem_cons_self)]
      exact ih fun d hd => h d (List.mem_cons_of_mem c hd)

/-- A piece without separators is one token, unless it is empty. -/
theorem tokens_of_token (hne : piece ≠ []) (h : ∀ c ∈ piece, ¬ s.Separates c) :
    s.tokens piece = [piece] := by
  have hpiece : ∀ c ∈ piece, s.isSeparator c = false := fun c hc => Bool.eq_false_iff.mpr (h c hc)
  rw [tokens_of_forall hpiece, if_neg hne]

/-- A token with a gap behind it is the first token, unless the text goes on without a gap. -/
theorem tokens_token_append (hne : piece ≠ []) (hpiece : ∀ c ∈ piece, ¬ s.Separates c)
    (hgap : ∀ c ∈ gap, s.Separates c) (hend : gap = [] → rest = []) :
    s.tokens (piece ++ gap ++ rest) = piece :: s.tokens rest := by
  cases gap with
  | nil => rw [hend rfl, List.append_nil, List.append_nil, tokens_of_token hne hpiece, tokens_nil]
  | cons c gap =>
      have hc : s.isSeparator c = true := hgap c List.mem_cons_self
      have hgap' : ∀ d ∈ gap, s.Separates d := fun d hd => hgap d (List.mem_cons_of_mem c hd)
      rw [List.append_assoc, List.cons_append, tokens_append_cons hc, tokens_of_token hne hpiece,
        tokens_append_of_gap hgap']
      rfl

/-- **Splitting finds the tokens of a cutting**, whichever cutting it is. -/
theorem tokens_text (hx : x.IsAt s.Separates) : s.tokens x.text = x.tokens := by
  obtain ⟨lead, parts⟩ := x
  rw [Cutting.text, tokens_append_of_gap hx.lead, Cutting.tokens]
  induction parts generalizing lead with
  | nil => exact tokens_nil
  | cons part parts ih =>
      obtain ⟨token, gap⟩ := part
      obtain ⟨hne, htoken⟩ := hx.token _ List.mem_cons_self
      have hend : gap = [] → (parts.flatMap fun part => part.1 ++ part.2) = [] := by
        intro hgap
        by_contra hrest
        refine hx.gap_ne_nil ?_ hgap
        rintro rfl
        exact hrest rfl
      rw [List.flatMap_cons, List.map_cons,
        tokens_token_append hne htoken (hx.gap _ List.mem_cons_self) hend, ih [] hx.tail]

/-- Every text has a cutting at the separators of a splitter. -/
theorem exists_cutting (s : Splitter) (source : List Char) :
    ∃ x : Cutting, x.IsAt s.Separates ∧ x.text = source := by
  induction source using separator_induction (p := s.isSeparator) with
  | whole piece hpiece =>
      by_cases hne : piece = []
      · subst hne
        exact ⟨⟨[], []⟩, ⟨by simp, by simp, by simp, by simp⟩, rfl⟩
      · have htoken : ∀ c ∈ piece, ¬ s.Separates c := fun c hc => Bool.eq_false_iff.mp (hpiece c hc)
        refine ⟨⟨[], [(piece, [])]⟩, ⟨by simp, ?_, by simp, by simp⟩, by simp [Cutting.text]⟩
        intro part hpart
        rw [List.mem_singleton.mp hpart]
        exact ⟨hne, htoken⟩
  | cut piece c rest hpiece hc ih =>
      obtain ⟨x, hx, rfl⟩ := ih
      by_cases hne : piece = []
      · subst hne
        exact ⟨_, hx.cons_lead hc, rfl⟩
      · have htoken : ∀ d ∈ piece, ¬ s.Separates d := fun d hd => Bool.eq_false_iff.mp (hpiece d hd)
        exact ⟨_, hx.cons_part hc hne htoken, by simp [Cutting.text]⟩

/-- A token is not empty and holds no separator. -/
theorem ne_nil_and_forall_of_mem_tokens (h : piece ∈ s.tokens source) :
    piece ≠ [] ∧ ∀ c ∈ piece, ¬ s.Separates c := by
  obtain ⟨x, hx, rfl⟩ := s.exists_cutting source
  rw [tokens_text hx] at h
  obtain ⟨part, hpart, rfl⟩ := List.mem_map.mp h
  exact hx.token part hpart

/-! ## One splitter after another -/

/-- The tokens of a text depend on which of its own characters separate. -/
theorem tokens_congr (h : ∀ c ∈ source, a.isSeparator c = b.isSeparator c) :
    a.tokens source = b.tokens source := by
  induction source using separator_induction (p := a.isSeparator) with
  | whole piece hpiece =>
      have hpiece' : ∀ c ∈ piece, b.isSeparator c = false := fun c hc => h c hc ▸ hpiece c hc
      rw [tokens_of_forall hpiece, tokens_of_forall hpiece']
  | cut piece c rest hpiece hc ih =>
      have hpiece' : ∀ d ∈ piece, b.isSeparator d = false := fun d hd =>
        h d (List.mem_append_left _ hd) ▸ hpiece d hd
      have hc' : b.isSeparator c = true :=
        h c (List.mem_append_right _ List.mem_cons_self) ▸ hc
      have hrest : a.tokens rest = b.tokens rest := ih fun d hd =>
        h d (List.mem_append_right _ (List.mem_cons_of_mem c hd))
      rw [tokens_append_cons hc, tokens_append_cons hc', tokens_of_forall hpiece,
        tokens_of_forall hpiece', hrest]

/-- **Splitting twice is splitting once**, at the separators of both splitters. -/
theorem flatMap_tokens_of_or {joint : Splitter}
    (hjoint : ∀ c, joint.isSeparator c = (a.isSeparator c || b.isSeparator c))
    (source : List Char) : (a.tokens source).flatMap b.tokens = joint.tokens source := by
  -- a token of `a` holds no separator of `a`, so there `b` and the joint splitter do the same
  have hsame : ∀ token ∈ a.tokens source, b.tokens token = joint.tokens token := by
    intro token htoken
    refine tokens_congr fun c hc => ?_
    have ha : a.isSeparator c = false :=
      Bool.eq_false_iff.mpr ((ne_nil_and_forall_of_mem_tokens htoken).2 c hc)
    rw [hjoint, ha, Bool.false_or]
  have hcut : ∀ front c rest, a.isSeparator c = true →
      joint.tokens (front ++ c :: rest) = joint.tokens front ++ joint.tokens rest := by
    intro front c rest hc
    exact tokens_append_cons (by rw [hjoint, hc, Bool.true_or])
  calc (a.tokens source).flatMap b.tokens
    _ = (a.tokens source).flatMap joint.tokens := List.flatMap_congr hsame
    _ = joint.tokens source := flatMap_tokens tokens_nil hcut source

theorem flatMap_split_of_or {joint : Splitter}
    (hjoint : ∀ c, joint.isSeparator c = (a.isSeparator c || b.isSeparator c)) (source : String) :
    (a.split source).flatMap b.split = joint.split source := by
  rw [split, split, ← flatMap_tokens_of_or hjoint, List.flatMap_map, List.map_flatMap]
  simp [split]

end Splitter

/-! ## Delimiters -/

/-- `c` is a character of one of the delimiters. -/
def IsDelimiter (delimiters : List String) (c : Char) : Prop := ∃ d ∈ delimiters, c ∈ d.toList

/-- The text is made of the tokens, which the characters of the delimiters separate. -/
def Tokenized (delimiters : List String) (source : String) (tokens : List String) : Prop :=
  ∃ x : Cutting, x.IsAt (IsDelimiter delimiters) ∧ x.text = source.toList ∧
    x.tokens = tokens.map String.toList

namespace Splitter

theorem separates_ofDelimiters (delimiters : List String) :
    (ofDelimiters delimiters).Separates = IsDelimiter delimiters :=
  funext fun _ => propext isSeparator_ofDelimiters

theorem isSeparator_ofDelimiters_append (d e : List String) (c : Char) :
    (ofDelimiters (d ++ e)).isSeparator c =
      ((ofDelimiters d).isSeparator c || (ofDelimiters e).isSeparator c) := by
  rw [Bool.eq_iff_iff, Bool.or_eq_true]
  simp only [isSeparator_ofDelimiters, List.mem_append, or_and_right, exists_or]

/-- The tokens that splitting gives are those of a cutting. -/
theorem tokenized_split (delimiters : List String) (source : String) :
    Tokenized delimiters source ((ofDelimiters delimiters).split source) := by
  obtain ⟨x, hx, htext⟩ := (ofDelimiters delimiters).exists_cutting source.toList
  refine ⟨x, separates_ofDelimiters delimiters ▸ hx, htext, ?_⟩
  rw [← tokens_text hx, htext, split]
  simp

end Splitter

/-- **Splitting is exact.** A text is split into given tokens exactly if it is made of them, with gaps
    of delimiter characters between them and perhaps at the ends, where no token is empty or holds a
    delimiter character. -/
theorem split_eq_iff_tokenized (delimiters : List String) (source : String)
    (tokens : List String) :
    (Splitter.ofDelimiters delimiters).split source = tokens ↔
      Tokenized delimiters source tokens := by
  constructor
  · rintro rfl
    exact Splitter.tokenized_split delimiters source
  · rintro ⟨x, hx, htext, htokens⟩
    rw [← Splitter.separates_ofDelimiters] at hx
    rw [Splitter.split, ← htext, Splitter.tokens_text hx, htokens]
    simp

/-- **Splitters compose.** Splitting at some delimiters and the tokens at others is splitting at all of
    them, in either order; the tokens of a splitter are not split by it again; and the tokens at all the
    delimiters are, group by group, what the tokens at the first ones are made of. -/
theorem split_split (d e : List String) (source : String) :
    ((Splitter.ofDelimiters d).split source).flatMap (Splitter.ofDelimiters e).split =
        (Splitter.ofDelimiters (d ++ e)).split source ∧
      ((Splitter.ofDelimiters e).split source).flatMap (Splitter.ofDelimiters d).split =
        (Splitter.ofDelimiters (d ++ e)).split source ∧
      ((Splitter.ofDelimiters d).split source).flatMap (Splitter.ofDelimiters d).split =
        (Splitter.ofDelimiters d).split source ∧
      ∃ groups : List (List String),
        groups.flatten = (Splitter.ofDelimiters (d ++ e)).split source ∧
        List.Forall₂ (Tokenized e) ((Splitter.ofDelimiters d).split source) groups := by
  have hjoint := Splitter.isSeparator_ofDelimiters_append d e
  have hde : ((Splitter.ofDelimiters d).split source).flatMap (Splitter.ofDelimiters e).split =
      (Splitter.ofDelimiters (d ++ e)).split source := Splitter.flatMap_split_of_or hjoint source
  refine ⟨hde, ?_, ?_, ((Splitter.ofDelimiters d).split source).map (Splitter.ofDelimiters e).split,
    ?_, ?_⟩
  · exact Splitter.flatMap_split_of_or (fun c => (hjoint c).trans (Bool.or_comm _ _)) source
  · exact Splitter.flatMap_split_of_or (fun c => (Bool.or_self _).symm) source
  · rw [← hde, List.flatMap_def]
  · rw [List.forall₂_map_right_iff]
    exact List.forall₂_same.mpr fun token _ => Splitter.tokenized_split e token

end MethodSig
