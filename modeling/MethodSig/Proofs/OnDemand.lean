import MethodSig.Proofs.Cutting
import MethodSig.Proofs.Runs

/-!
# `Proofs.OnDemand` — tokens one at a time

`Splitter.next?` finds one token and leaves the text behind it. Asked again and again it gives the tokens
of the whole text, in order, and then none (`Splitter.drains_iff`), so what is taken on demand is what
splitting gives, as far as it was asked for (`Splitter.firstTokens_eq_take`).

It does not look further than it has to. A token that a separator completes is found without regard to
what stands behind the separator (`Splitter.next?_append_cons`), and so is a whole row of tokens
(`Splitter.Yields.append_cons`): text that comes later is left for later. A text cut at any of its
separators, be it one of many in a row, is therefore drained one half after the other.
-/

namespace MethodSig.Splitter

variable {s : Splitter} {c : Char} {source rest left u token : List Char} {tokens : List (List Char)}
  {n : Nat}

/-! ## One token -/

/-- The first token is the run of characters that do not separate, behind the separators in front. -/
theorem next?_eq_run? (s : Splitter) (source : List Char) :
    s.next? source = run? (fun d => !s.isSeparator d) (source.dropWhile s.isSeparator) := rfl

/-- There is no token where there are only separators. -/
theorem next?_eq_none_iff : s.next? source = none ↔ ∀ d ∈ source, s.Separates d := by
  rw [next?_eq_run?, run?_eq_none_iff]
  constructor
  · intro hstops
    refine List.dropWhile_eq_nil_iff.mp ?_
    have hfront := List.head?_dropWhile_not s.isSeparator source
    cases hrest : source.dropWhile s.isSeparator with
    | nil => rfl
    | cons d rest =>
        rw [hrest] at hstops hfront
        simp_all
  · intro h
    rw [List.dropWhile_eq_nil_iff.mpr h]
    exact stops_nil

/-- **The first token** stands behind a gap and reaches to the next separator or to the end. -/
theorem next?_eq_some_iff :
    s.next? source = some (token, rest) ↔
      token ≠ [] ∧ (∀ d ∈ token, ¬ s.Separates d) ∧ (∀ d ∈ rest.head?, s.Separates d) ∧
        ∃ gap, (∀ d ∈ gap, s.Separates d) ∧ source = gap ++ token ++ rest := by
  have hclass : ∀ d, (!s.isSeparator d) = true ↔ ¬ s.Separates d := by simp [Separates]
  have hstops : Stops (fun d => !s.isSeparator d) rest ↔ ∀ d ∈ rest.head?, s.Separates d := by
    simp [Stops, Separates]
  rw [next?_eq_run?, run?_eq_some_iff_append, hstops]
  constructor
  · rintro ⟨⟨hne, htoken⟩, hrest, hsource⟩
    refine ⟨hne, fun d hd => (hclass d).mp (htoken d hd), hrest, source.takeWhile s.isSeparator,
      fun d hd => List.mem_takeWhile_imp hd, ?_⟩
    rw [List.append_assoc, ← hsource, List.takeWhile_append_dropWhile]
  · rintro ⟨hne, htoken, hrest, gap, hgap, rfl⟩
    refine ⟨⟨hne, fun d hd => (hclass d).mpr (htoken d hd)⟩, hrest, ?_⟩
    -- passing over separators stops at the first character of the token, so it passes over the gap
    obtain ⟨d, tail, rfl⟩ := List.exists_cons_of_ne_nil hne
    have hd : s.isSeparator d = false := Bool.eq_false_iff.mpr (htoken d List.mem_cons_self)
    rw [List.append_assoc, List.dropWhile_append_of_pos hgap, List.cons_append, List.dropWhile_cons, hd]
    rfl

/-- Where there is no token on demand, splitting finds none. -/
theorem tokens_of_next?_eq_none (h : s.next? source = none) : s.tokens source = [] := by
  have hgap : s.tokens (source ++ []) = s.tokens [] := tokens_append_of_gap (next?_eq_none_iff.mp h)
  rwa [List.append_nil, tokens_nil] at hgap

/-- The first token on demand is the first one of splitting. -/
theorem tokens_of_next?_eq_some (h : s.next? source = some (token, rest)) :
    s.tokens source = token :: s.tokens rest := by
  obtain ⟨hne, htoken, hrest, gap, hgap, rfl⟩ := next?_eq_some_iff.mp h
  rw [List.append_assoc, tokens_append_of_gap hgap]
  cases rest with
  | nil => rw [List.append_nil, tokens_of_token hne htoken, tokens_nil]
  | cons d rest =>
      -- the separator that ended the token is still there and makes no token itself
      have hd : s.isSeparator d = true := hrest d rfl
      rw [tokens_append_cons hd, tokens_of_token hne htoken, tokens_cons hd, List.singleton_append]

/-- **A completed token is not read on.** What stands behind the separator that completes a token is
    left as it is. -/
theorem next?_append_cons (hc : s.Separates c) (h : s.next? source = some (token, rest)) :
    s.next? (source ++ c :: u) = some (token, rest ++ c :: u) := by
  obtain ⟨hne, htoken, hrest, gap, hgap, rfl⟩ := next?_eq_some_iff.mp h
  refine next?_eq_some_iff.mpr ⟨hne, htoken, ?_, gap, hgap, by simp⟩
  cases rest with
  | nil => simpa using hc
  | cons d rest => simpa using hrest

/-- Where only separators are left, the first token is that of the text behind them. -/
theorem next?_append_cons_of_none (hc : s.Separates c) (h : s.next? source = none) :
    s.next? (source ++ c :: u) = s.next? u := by
  have hgap : ∀ d ∈ source ++ [c], s.isSeparator d = true := by
    intro d hd
    rcases List.mem_append.mp hd with hd | hd
    · exact next?_eq_none_iff.mp h d hd
    · exact List.mem_singleton.mp hd ▸ hc
  rw [next?_eq_run?, next?_eq_run?, List.append_cons, List.dropWhile_append_of_pos hgap]

/-! ## Token after token -/

/-- **Asking for some tokens**, one after another: those that come, and the text that is left. -/
inductive Yields (s : Splitter) : List Char → List (List Char) → List Char → Prop
  /-- Nothing was asked for. -/
  | nil {source : List Char} : Yields s source [] source
  /-- A token comes, and further ones from the text behind it. -/
  | cons {source token rest left : List Char} {tokens : List (List Char)}
      (h : s.next? source = some (token, rest)) (tail : Yields s rest tokens left) :
      Yields s source (token :: tokens) left

/-- **Asking until there is no further token.** -/
def Drains (s : Splitter) (source : List Char) (tokens : List (List Char)) : Prop :=
  ∃ left, s.Yields source tokens left ∧ s.next? left = none

/-- The tokens that come and those that are left are those of the text. -/
theorem Yields.tokens_eq (h : s.Yields source tokens left) :
    s.tokens source = tokens ++ s.tokens left := by
  induction h with
  | nil => rfl
  | cons h _ ih => rw [tokens_of_next?_eq_some h, ih, List.cons_append]

/-- **The tokens of a text come**, as many of them as are asked for. -/
theorem exists_yields {later : List (List Char)} (h : s.tokens source = tokens ++ later) :
    ∃ left, s.Yields source tokens left ∧ s.tokens left = later := by
  induction tokens generalizing source with
  | nil => exact ⟨source, .nil, h⟩
  | cons token tokens ih =>
      cases hnext : s.next? source with
      | none => simp [tokens_of_next?_eq_none hnext] at h
      | some found =>
          obtain ⟨token', rest⟩ := found
          rw [tokens_of_next?_eq_some hnext, List.cons_append] at h
          obtain ⟨rfl, hrest⟩ := List.cons.inj h
          obtain ⟨left, hleft, hlater⟩ := ih hrest
          exact ⟨left, .cons hnext hleft, hlater⟩

theorem next?_eq_none_of_tokens (h : s.tokens source = []) : s.next? source = none := by
  cases hnext : s.next? source with
  | none => rfl
  | some found => simp [tokens_of_next?_eq_some hnext] at h

/-- **Asking comes to an end, and gives the tokens** that splitting gives. -/
theorem drains_iff : s.Drains source tokens ↔ tokens = s.tokens source := by
  constructor
  · rintro ⟨left, hyields, hend⟩
    rw [hyields.tokens_eq, tokens_of_next?_eq_none hend, List.append_nil]
  · rintro rfl
    obtain ⟨left, hyields, hleft⟩ := exists_yields (List.append_nil (s.tokens source)).symm
    exact ⟨left, hyields, next?_eq_none_of_tokens hleft⟩

/-- The first tokens on demand are the first ones of splitting, or all where there are fewer. -/
theorem firstTokens_eq_take (n : Nat) (source : List Char) :
    s.firstTokens n source = (s.tokens source).take n := by
  induction n generalizing source with
  | zero => rfl
  | succ n ih =>
      cases hnext : s.next? source with
      | none => rw [firstTokens, hnext, tokens_of_next?_eq_none hnext, List.take_nil]
      | some found =>
          obtain ⟨token, rest⟩ := found
          rw [tokens_of_next?_eq_some hnext, List.take_succ_cons, ← ih rest, firstTokens, hnext]

/-! ## Text that comes later -/

/-- **Completed tokens are not read on**: what comes later is left as it is. -/
theorem Yields.append_cons (h : s.Yields source tokens left) (hc : s.Separates c) (u : List Char) :
    s.Yields (source ++ c :: u) tokens (left ++ c :: u) := by
  induction h with
  | nil => exact .nil
  | cons h _ ih => exact .cons (next?_append_cons hc h) ih

theorem Yields.append {xs ys : List (List Char)} {middle : List Char} (h : s.Yields source xs middle)
    (h' : s.Yields middle ys left) : s.Yields source (xs ++ ys) left := by
  induction h with
  | nil => exact h'
  | cons h _ ih => exact .cons h (ih h')

/-- **One half after the other.** -/
theorem Drains.append_cons {xs ys : List (List Char)} (hx : s.Drains source xs) (hc : s.Separates c)
    (hy : s.Drains u ys) : s.Drains (source ++ c :: u) (xs ++ ys) := by
  obtain ⟨left, hxs, hleft⟩ := hx
  obtain ⟨left', hys, hend⟩ := hy
  -- only separators are left of the first half, so the next token is the first one of the second
  have hnext : s.next? (left ++ c :: u) = s.next? u := next?_append_cons_of_none hc hleft
  cases hys with
  | nil =>
      rw [List.append_nil]
      exact ⟨left ++ c :: u, hxs.append_cons hc u, hnext.trans hend⟩
  | cons h tail => exact ⟨left', (hxs.append_cons hc u).append (.cons (hnext.trans h) tail), hend⟩

/-- The first tokens of a text do not depend on what comes later, if they are completed. -/
theorem firstTokens_append_cons (hc : s.Separates c) (hn : n ≤ (s.tokens source).length) :
    s.firstTokens n (source ++ c :: u) = s.firstTokens n source := by
  rw [firstTokens_eq_take, firstTokens_eq_take, tokens_append_cons hc, List.take_append_of_le_length hn]

/-! ## Texts -/

/-- **Tokens on demand.** Asking a text for its tokens comes to an end, and gives those that splitting
    gives; the first `n` that are asked for are the first `n` of them. A text with a separator in it gives
    the tokens before the separator and then those behind it, and so does splitting. Tokens that a
    separator completes do not depend on what follows: they come as they did, and all that stands behind
    the separator is left. -/
theorem split_onDemand (s : Splitter) {c : Char} (hc : s.isSeparator c = true) (source u : String) :
    (∀ tokens, s.Drains source.toList tokens ↔ tokens.map String.ofList = s.split source) ∧
      (∀ xs ys, s.Drains source.toList xs → s.Drains u.toList ys →
        s.Drains (source.push c ++ u).toList (xs ++ ys)) ∧
      s.split (source.push c ++ u) = s.split source ++ s.split u ∧
      (∀ n, s.take n source = (s.split source).take n) ∧
      (∀ tokens left, s.Yields source.toList tokens left →
        s.Yields (source.push c ++ u).toList tokens (left ++ c :: u.toList)) ∧
      ∀ n, n ≤ (s.split source).length → s.take n (source.push c ++ u) = s.take n source := by
  have htext : (source.push c ++ u).toList = source.toList ++ c :: u.toList := by simp
  have hinjective : Function.Injective (List.map String.ofList) :=
    List.map_injective_iff.mpr fun _ _ => String.ofList_injective
  simp only [htext]
  refine ⟨?_, fun xs ys hx hy => hx.append_cons hc hy, ?_, ?_, fun tokens left h => h.append_cons hc _, ?_⟩
  · intro tokens
    rw [drains_iff, split, hinjective.eq_iff]
  · rw [split, htext, tokens_append_cons hc, List.map_append, split, split]
  · intro n
    rw [take, firstTokens_eq_take, split, List.map_take]
  · intro n hn
    rw [split, List.length_map] at hn
    rw [take, take, htext, firstTokens_append_cons hc hn]

theorem split_onDemand_amid_separators :
    (ofDelimiters [",;"]).isSeparator ';' = true ∧
      (ofDelimiters [",;"]).split (",a,,bc,".push ';' ++ ",d") = ["a", "bc"] ++ ["d"] ∧
      (ofDelimiters [",;"]).take 2 (",a,,bc,".push ';' ++ ",d") = ["a", "bc"] := by
  have hc : (ofDelimiters [",;"]).isSeparator ';' = true := by decide
  have hsource : (ofDelimiters [",;"]).split ",a,,bc," = ["a", "bc"] := by decide +kernel
  have hrest : (ofDelimiters [",;"]).split ",d" = ["d"] := by decide +kernel
  obtain ⟨-, -, hsplit, htake, -, hlater⟩ := split_onDemand (ofDelimiters [",;"]) hc ",a,,bc," ",d"
  rw [hsource, hrest] at hsplit
  refine ⟨hc, hsplit, ?_⟩
  rw [hlater 2 (by rw [hsource]; exact Nat.le_refl 2), htake, hsource]
  rfl

end MethodSig.Splitter
