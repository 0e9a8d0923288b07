import MethodSig.Splitter
import Mathlib.Data.List.TakeWhile

/-!
# `Proofs.Tokens` — tokens and the separators between them

A separator cuts a text into two that are split apart (`Splitter.tokens_append_cons`), and a text
without separators is one token, unless it is empty (`Splitter.tokens_of_forall`). Every text is built
from the two, from its first separator on; `separator_induction` is the induction that follows.

So whatever can be computed of a text in parts, cut at separators, can be computed of its tokens
(`Splitter.flatMap_tokens`): the separators and the empty pieces that splitting drops add nothing.
-/

namespace MethodSig

variable {source rest : List Char} {c : Char}

/-- **From separator to separator.** What holds of texts without separators, and of a text when it holds
    of what stands behind its first separator, holds of every text. -/
@[elab_as_elim]
theorem separator_induction {p : Char → Bool} {motive : List Char → Prop} (source : List Char)
    (whole : ∀ piece, (∀ d ∈ piece, p d = false) → motive piece)
    (cut : ∀ piece c rest, (∀ d ∈ piece, p d = false) → p c = true → motive rest →
      motive (piece ++ c :: rest)) : motive source := by
  have hpiece : ∀ d ∈ source.takeWhile (fun d => !p d), p d = false := by
    intro d hd
    simpa using List.mem_takeWhile_imp hd
  have hsource : source.takeWhile (fun d => !p d) ++ source.dropWhile (fun d => !p d) = source :=
    List.takeWhile_append_dropWhile
  cases hrest : source.dropWhile (fun d => !p d) with
  | nil =>
      rw [hrest, List.append_nil] at hsource
      rw [← hsource]
      exact whole _ hpiece
  | cons c rest =>
      rw [hrest] at hsource
      have hc : p c = true := by
        have hhead := List.head?_dropWhile_not (fun d => !p d) source
        rw [hrest] at hhead
        simpa using hhead
      have hlt : rest.length < source.length := by
        rw [← hsource, List.length_append, List.length_cons]
        omega
      rw [← hsource]
      exact cut _ c rest hpiece hc (separator_induction rest whole cut)
termination_by source.length

namespace Splitter

variable {s : Splitter}

/-- The separators are the characters of the delimiter strings. -/
theorem isSeparator_ofDelimiters {delimiters : List String} :
    (ofDelimiters delimiters).isSeparator c = true ↔ ∃ d ∈ delimiters, c ∈ d.toList := by
  rw [isSeparator, CharSet.contains_iff, ofDelimiters, CharSet.mem_toList_ofList, List.mem_flatMap]

@[simp] theorem tokens_nil : s.tokens [] = [] := rfl

/-- **A separator cuts a text.** No token goes across it. -/
theorem tokens_append_cons (hc : s.isSeparator c = true) :
    s.tokens (source ++ c :: rest) = s.tokens source ++ s.tokens rest := by
  rw [tokens, pieces, List.splitOnP_append_cons _ _ hc, List.filter_append]
  rfl

/-- A separator at the front of a text makes no token. -/
theorem tokens_cons (hc : s.isSeparator c = true) : s.tokens (c :: rest) = s.tokens rest := by
  have h : s.tokens ([] ++ c :: rest) = s.tokens [] ++ s.tokens rest := tokens_append_cons hc
  exact h

/-- A text without separators is one token, or none where it is empty. -/
theorem tokens_of_forall (h : ∀ d ∈ source, s.isSeparator d = false) :
    s.tokens source = if source = [] then [] else [source] := by
  rw [tokens, pieces, List.splitOnP_eq_singleton h]
  cases source <;> rfl

/-- **Token by token.** A function of texts that is empty on the empty text, and on any other the
    concatenation of its values before and behind a separator, is that of its values on the tokens. -/
theorem flatMap_tokens {α : Type} {f : List Char → List α} (hnil : f [] = [])
    (hcut : ∀ front c rest, s.isSeparator c = true → f (front ++ c :: rest) = f front ++ f rest)
    (source : List Char) : (s.tokens source).flatMap f = f source := by
  have hwhole : ∀ piece, (∀ d ∈ piece, s.isSeparator d = false) →
      (s.tokens piece).flatMap f = f piece := by
    intro piece hpiece
    rw [tokens_of_forall hpiece]
    split
    · rename_i h
      rw [h, hnil, List.flatMap_nil]
    · simp
  induction source using separator_induction (p := s.isSeparator) with
  | whole piece hpiece => exact hwhole piece hpiece
  | cut piece c rest hpiece hc ih =>
      rw [tokens_append_cons hc, List.flatMap_append, hwhole piece hpiece, ih, hcut piece c rest hc]

end Splitter

end MethodSig
