import MethodSig.Proofs.Leftmost
import MethodSig.Proofs.Patterns

/-!
# `Proofs.Misses` — the grammar of signatures, written down

Here the grammar is a pattern, rule by rule, and every rule is read as the functions of the grammar say:
the text that is left is that of the rule's function, and the misses are those that are listed for the
rule. The last rule is the search, which passes over a character wherever no signature begins; reading
it comes to what `findSignature?` finds and misses what `searchMisses` lists (`reads_search_iff`).
-/

namespace MethodSig

open Pattern

/-- Misses as patterns record them. -/
def recorded (misses : List Miss) : List (Symbol × List Char) :=
  misses.map fun m => (.named m.terminal, m.rest)

@[simp] theorem recorded_nil : recorded [] = [] := rfl

@[simp] theorem recorded_append (ms ms' : List Miss) :
    recorded (ms ++ ms') = recorded ms ++ recorded ms' := List.map_append

/-! ## The rules -/

namespace Pattern

/-- A word. -/
def word : Pattern := oneOrMore (one (.named .wordChar))

/-- Blanks between words, which are not reported. -/
def blanks : Pattern := quiet (oneOrMore (one .blank))

/-- Two words with blanks between them. -/
def pair : Pattern := word.seq (blanks.seq word)

/-- Parameters up to a closing parenthesis. -/
def params : Pattern := many (pair.choice (one (.named .paramChar)))

/-- A return type and a name, and the parameters in parentheses. -/
def declaration : Pattern :=
  pair.seq ((one (.named .openParen)).seq (params.seq (one (.named .closeParen))))

/-- A visibility keyword. -/
def visibility : Pattern :=
  (one (.named (.keyword .pub))).choice
    ((one (.named (.keyword .prot))).choice (one (.named (.keyword .priv))))

/-- A declaration behind a keyword, or else alone. -/
def signature : Pattern := (visibility.seq (blanks.seq declaration)).choice declaration

/-- Any character. -/
def anyChar : Pattern := one (.named .anyChar)

/-- The first signature anywhere in a text, and all that stands around it. -/
def search : Pattern := (many ((absent signature).seq anyChar)).seq (signature.seq (many anyChar))

end Pattern

/-! ## Words and pairs -/

variable {s rest : List Char}

theorem reads_word (s : List Char) :
    word.Reads s ((word? s).map (·.2)) (recorded (wordMisses s)) := reads_oneOrMore rfl s

theorem reads_blanks (s : List Char) : blanks.Reads s ((blanks? s).map (·.2)) [] :=
  .quiet (reads_oneOrMore rfl s)

section Spaced

variable {a b : Pattern} {o : Option (List Char)} {m m' : List (Symbol × List Char)}

/-- Two patterns with blanks between them fail behind the first one where no blank stands. -/
theorem reads_spaced_of_none (ha : a.Reads s (some rest) m) (h : blanks? rest = none) :
    (a.seq (blanks.seq b)).Reads s none m := by
  have hblanks := reads_blanks rest
  rw [h] at hblanks
  have hread := Reads.seq ha (.seqFail (b := b) hblanks)
  rwa [List.append_nil] at hread

/-- Behind the blanks the second one decides. -/
theorem reads_spaced {w : List Char × List Char} (ha : a.Reads s (some rest) m)
    (h : blanks? rest = some w) (hb : b.Reads w.2 o m') :
    (a.seq (blanks.seq b)).Reads s o (m ++ m') := by
  have hblanks := reads_blanks rest
  rw [h] at hblanks
  exact .seq ha (.seq hblanks hb)

end Spaced

theorem reads_pair (s : List Char) :
    Pattern.pair.Reads s ((pair? s).map (·.2)) (recorded (pairMisses s)) := by
  have hword := reads_word s
  unfold Pattern.pair
  cases hw : word? s with
  | none =>
      rw [hw] at hword
      have hpair : pair? s = none := by simp [pair?, hw]
      have hmisses : pairMisses s = wordMisses s := by simp [pairMisses, hw]
      rw [hpair, hmisses]
      exact .seqFail hword
  | some w =>
      rw [hw] at hword
      cases hb : blanks? w.2 with
      | none =>
          have hpair : pair? s = none := by simp [pair?, hw, hb]
          have hmisses : pairMisses s = wordMisses s := by simp [pairMisses, hw, hb]
          rw [hpair, hmisses]
          exact reads_spaced_of_none hword hb
      | some b =>
          have hpair : (pair? s).map (·.2) = (word? b.2).map (·.2) := by
            cases hn : word? b.2 <;> simp [pair?, hw, hb, hn]
          have hmisses : pairMisses s = wordMisses s ++ wordMisses b.2 := by simp [pairMisses, hw, hb]
          rw [hpair, hmisses, recorded_append]
          exact reads_spaced hword hb (reads_word b.2)

/-! ## Parameters -/

theorem paramsMisses_of_pair? {p : List Char × List Char} (h : pair? s = some (p, rest)) :
    paramsMisses s = pairMisses s ++ paramsMisses rest := by
  rw [paramsMisses]
  split
  · rename_i h'
    rw [h] at h'
    cases h'
    rfl
  · rename_i h'
    rw [h] at h'
    cases h'

theorem paramsMisses_nil : paramsMisses [] = pairMisses [] ++ [⟨.paramChar, []⟩] := by
  rw [paramsMisses]
  rfl

theorem paramsMisses_cons {c : Char} (h : pair? (c :: s) = none) :
    paramsMisses (c :: s) =
      pairMisses (c :: s) ++ if c == ')' then [⟨.paramChar, c :: s⟩] else paramsMisses s := by
  rw [paramsMisses]
  split
  · rename_i h'
    rw [h] at h'
    cases h'
  · rfl

/-- **A parameter list** is read up to the end of its text or a closing parenthesis. -/
theorem reads_params (s : List Char) :
    Pattern.params.Reads s (some (paramsUntil (· == ')') s).2) (recorded (paramsMisses s)) := by
  have hpair := reads_pair s
  -- a pair is there, the text ends, a parenthesis closes the list, or a character is passed over
  fun_induction paramsUntil (· == ')') s with
  | case1 s p rest hsome params left hleft ih =>
      rw [hsome] at hpair
      rw [hleft] at ih
      rw [paramsMisses_of_pair? hsome, recorded_append]
      exact .manyMore (.choiceFirst hpair) (ih (reads_pair rest))
  | case2 hnone =>
      rw [paramsMisses_nil, recorded_append]
      exact .manyEnd (.choiceSecond hpair (.miss rfl))
  | case3 c rest hnone hc =>
      rw [hnone] at hpair
      rw [paramsMisses_cons hnone, recorded_append, if_pos hc]
      exact .manyEnd (.choiceSecond hpair (.miss (by simpa [Symbol.behind?, behindChar?] using hc)))
  | case4 c rest hnone hc ih =>
      rw [hnone] at hpair
      rw [paramsMisses_cons hnone, recorded_append, if_neg hc]
      have hhit : Reads (one (.named .paramChar)) (c :: rest) (some rest) [] :=
        .hit (by simpa [Symbol.behind?, behindChar?] using hc)
      have hread := Reads.manyMore (.choiceSecond hpair hhit) (ih (reads_pair rest))
      rwa [List.append_nil] at hread

/-! ## Declarations -/

section Declarations

variable {p : List Char × List Char} {t : List Char}

/-- A single character that is there. -/
theorem reads_char {x : Symbol} {c : Char} (hx : x.behind? = behindChar? (· == c)) (s : List Char) :
    (one x).Reads (c :: s) (some s) [] :=
  .hit (by simp [hx, behindChar?])

/-- A single character that is not there. -/
theorem reads_char_of_stops {x : Symbol} {c : Char} (hx : x.behind? = behindChar? (· == c))
    (h : Stops (· == c) s) : (one x).Reads s none [(x, s)] := by
  refine .miss ?_
  rw [hx]
  cases s with
  | nil => rfl
  | cons d s => rw [behindChar?, stops_cons.mp h]; rfl

theorem declarationMisses_of_stops (h : pair? s = some (p, t)) (hstop : Stops (· == '(') t) :
    declarationMisses s = pairMisses s ++ [⟨.openParen, t⟩] := by
  rw [declarationMisses, h]
  split
  · rename_i h'
    cases h'
  · rename_i h'
    cases h'
    exact absurd (stops_cons.mp hstop) (by decide)
  · rename_i h'
    cases h'
    rfl

theorem declaration?_of_closed (visibility : Option Visibility)
    (h : pair? s = some (p, '(' :: t)) (hclose : (paramsUntil (· == ')') t).2 = ')' :: rest) :
    (declaration? visibility s).map (·.2) = some rest ∧
      declarationMisses s = pairMisses s ++ paramsMisses t := by
  rcases hparams : paramsUntil (· == ')') t with ⟨params, left⟩
  rw [hparams] at hclose
  obtain rfl : left = ')' :: rest := hclose
  simp [declaration?, declarationMisses, h, hparams]

theorem declaration?_of_unclosed (visibility : Option Visibility)
    (h : pair? s = some (p, '(' :: t)) (hend : (paramsUntil (· == ')') t).2 = []) :
    (declaration? visibility s).map (·.2) = none ∧
      declarationMisses s = pairMisses s ++ (paramsMisses t ++ [⟨.closeParen, []⟩]) := by
  rcases hparams : paramsUntil (· == ')') t with ⟨params, left⟩
  rw [hparams] at hend
  obtain rfl : left = [] := hend
  simp [declaration?, declarationMisses, h, hparams]

/-- **A declaration** fails at its pair, or before a parenthesis opens, or where none closes. -/
theorem reads_declaration (visibility : Option Visibility) (s : List Char) :
    Pattern.declaration.Reads s ((declaration? visibility s).map (·.2))
      (recorded (declarationMisses s)) := by
  have hpair := reads_pair s
  unfold Pattern.declaration
  cases hp : pair? s with
  | none =>
      rw [hp] at hpair
      have hdeclaration : declaration? visibility s = none := by simp [declaration?, hp]
      have hmisses : declarationMisses s = pairMisses s := by simp [declarationMisses, hp]
      rw [hdeclaration, hmisses]
      exact .seqFail hpair
  | some found =>
      obtain ⟨p, t⟩ := found
      rw [hp] at hpair
      by_cases hstop : Stops (· == '(') t
      · rw [declaration?_eq_none_of_pair? hp hstop, declarationMisses_of_stops hp hstop, recorded_append]
        exact .seq hpair (.seqFail (reads_char_of_stops rfl hstop))
      · obtain ⟨u, rfl⟩ : ∃ u, t = '(' :: u := by
          cases t with
          | nil => exact absurd stops_nil hstop
          | cons c u =>
              rw [stops_cons, Bool.not_eq_false, beq_iff_eq] at hstop
              exact ⟨u, by rw [hstop]⟩
        have hopen := reads_char (x := .named .openParen) rfl u
        have hparams := reads_params u
        rcases paramsUntil_rest (· == ')') u with hend | ⟨c, rest, hclose, hc⟩
        · obtain ⟨hdeclaration, hmisses⟩ := declaration?_of_unclosed visibility hp hend
          rw [hend] at hparams
          have hclose := reads_char_of_stops (x := .named .closeParen) rfl stops_nil
          rw [hdeclaration, hmisses, recorded_append, recorded_append]
          have hread := Reads.seq hpair (.seq hopen (.seq hparams hclose))
          rwa [List.nil_append] at hread
        · obtain rfl : c = ')' := beq_iff_eq.mp hc
          obtain ⟨hdeclaration, hmisses⟩ := declaration?_of_closed visibility hp hclose
          rw [hclose] at hparams
          rw [hdeclaration, hmisses, recorded_append]
          have hread := Reads.seq hpair (.seq hopen (.seq hparams
            (reads_char (x := .named .closeParen) rfl rest)))
          rwa [List.append_nil, List.nil_append] at hread

end Declarations

/-! ## Signatures -/

/-- A keyword is asked for as a whole. -/
theorem behind?_keyword (v : Visibility) (s : List Char) :
    Symbol.behind? (.named (.keyword v)) s =
      if v.keyword.toList.isPrefixOf s then some (s.drop v.keyword.toList.length) else none := by
  rw [Symbol.behind?]
  split
  · rename_i hfront
    obtain ⟨t, rfl⟩ := List.isPrefixOf_iff_prefix.mp hfront
    rw [List.drop_left]
    exact List.isPrefixOf?_eq_some_iff_append_eq.mpr rfl
  · rename_i hfront
    rw [← Option.not_isSome_iff_eq_none, List.isSome_isPrefixOf?_eq_isPrefixOf]
    exact hfront

/-- **A visibility keyword** is the first of the three that is there. -/
theorem reads_visibility (s : List Char) :
    Pattern.visibility.Reads s ((visibility? s).map (·.2)) (recorded (visibilityMisses s)) := by
  have hit : ∀ v : Visibility, v.keyword.toList.isPrefixOf s = true →
      (one (.named (.keyword v))).Reads s (some (s.drop v.keyword.toList.length)) [] :=
    fun v hv => .hit ((behind?_keyword v s).trans (if_pos hv))
  have miss : ∀ v : Visibility, v.keyword.toList.isPrefixOf s = false →
      (one (.named (.keyword v))).Reads s none [(.named (.keyword v), s)] :=
    fun v hv => .miss ((behind?_keyword v s).trans (if_neg (Bool.eq_false_iff.mp hv)))
  unfold Pattern.visibility visibilityMisses visibility? Visibility.all
  simp only [List.findSome?_cons, List.findSome?_nil, List.takeWhile_cons, List.takeWhile_nil]
  cases hpub : Visibility.pub.keyword.toList.isPrefixOf s with
  | true => exact .choiceFirst (hit _ hpub)
  | false =>
      cases hprot : Visibility.prot.keyword.toList.isPrefixOf s with
      | true => exact .choiceSecond (miss _ hpub) (.choiceFirst (hit _ hprot))
      | false =>
          cases hpriv : Visibility.priv.keyword.toList.isPrefixOf s with
          | true => exact .choiceSecond (miss _ hpub) (.choiceSecond (miss _ hprot) (hit _ hpriv))
          | false =>
              exact .choiceSecond (miss _ hpub) (.choiceSecond (miss _ hprot) (miss _ hpriv))

/-- A keyword, blanks and a declaration. -/
theorem reads_visibleDeclaration (s : List Char) :
    (Pattern.visibility.seq (blanks.seq Pattern.declaration)).Reads s
      ((visibleDeclaration? s).map (·.2)) (recorded (visibleDeclarationMisses s)) := by
  have hvisibility := reads_visibility s
  cases hv : visibility? s with
  | none =>
      rw [hv] at hvisibility
      have hvisible : visibleDeclaration? s = none := by simp [visibleDeclaration?, hv]
      have hmisses : visibleDeclarationMisses s = visibilityMisses s := by
        simp [visibleDeclarationMisses, hv]
      rw [hvisible, hmisses]
      exact .seqFail hvisibility
  | some v =>
      rw [hv] at hvisibility
      cases hb : blanks? v.2 with
      | none =>
          have hvisible : visibleDeclaration? s = none := by simp [visibleDeclaration?, hv, hb]
          have hmisses : visibleDeclarationMisses s = visibilityMisses s := by
            simp [visibleDeclarationMisses, hv, hb]
          rw [hvisible, hmisses]
          exact reads_spaced_of_none hvisibility hb
      | some b =>
          have hvisible : visibleDeclaration? s = declaration? (some v.1) b.2 := by
            simp [visibleDeclaration?, hv, hb]
          have hmisses : visibleDeclarationMisses s = visibilityMisses s ++ declarationMisses b.2 := by
            simp [visibleDeclarationMisses, hv, hb]
          rw [hvisible, hmisses, recorded_append]
          exact reads_spaced hvisibility hb (reads_declaration (some v.1) b.2)

/-- **A signature** is a declaration behind a keyword, or where there is none a declaration alone. -/
theorem reads_signature (s : List Char) :
    Pattern.signature.Reads s ((signature? s).map (·.2)) (recorded (signatureMisses s)) := by
  have hvisible := reads_visibleDeclaration s
  unfold Pattern.signature
  rw [signature?, signatureMisses, recorded_append]
  cases hv : visibleDeclaration? s with
  | none =>
      rw [hv] at hvisible
      exact .choiceSecond hvisible (reads_declaration none s)
  | some found =>
      rw [hv] at hvisible
      have hread := Reads.choiceFirst (b := Pattern.declaration) hvisible
      rw [recorded_nil, List.append_nil]
      exact hread

/-! ## The search -/

/-- All that is left of a text can be passed over. -/
theorem reads_many_anyChar (s : List Char) :
    (many Pattern.anyChar).Reads s (some []) [(.named .anyChar, [])] := by
  have hread := reads_many_one (x := .named .anyChar) (p := fun _ => true) rfl s
  rwa [List.dropWhile_eq_nil_iff.mpr fun _ _ => rfl] at hread

/-- **The search passes over every position where no signature begins**, without a record. It comes to the
    first one, or to the end of the text, and what is recorded is what is missed from there on. -/
theorem exists_reads_scan (s : List Char) :
    ∃ r m m', (many ((absent Pattern.signature).seq Pattern.anyChar)).Reads s (some r) m ∧
      (Pattern.signature.seq (many Pattern.anyChar)).Reads r ((findSignature? s).map fun _ => []) m' ∧
      recorded (searchMisses s) = m ++ m' := by
  induction s with
  | nil =>
      have hsignature := reads_signature []
      refine ⟨[], [(.named .anyChar, [])], recorded (signatureMisses []), ?_, .seqFail hsignature, rfl⟩
      exact .manyEnd (.seq (.absent hsignature) (.miss rfl))
  | cons c s ih =>
      have hsignature := reads_signature (c :: s)
      cases hfront : signature? (c :: s) with
      | none =>
          obtain ⟨r, m, m', hscan, hbehind, hmisses⟩ := ih
          rw [hfront] at hsignature
          -- what the attempt here missed is not recorded, so the misses are those of the rest
          refine ⟨r, m, m', ?_, ?_, ?_⟩
          · exact .manyMore (.seq (.absent hsignature) (.hit rfl)) hscan
          · rwa [findSignature?_cons_of_none hfront]
          · rw [searchMisses, hfront]
            exact hmisses
      | some found =>
          rw [hfront] at hsignature
          refine ⟨c :: s, [], recorded (signatureMisses (c :: s)) ++ [(.named .anyChar, [])], ?_, ?_, ?_⟩
          · exact .manyEnd (.seqFail (.present hsignature))
          · rw [findSignature?_of_signature? hfront]
            exact .seq hsignature (reads_many_anyChar found.2)
          · rw [searchMisses, hfront, recorded_append]
            rfl

/-- **Reading the grammar is searching.** It takes the whole text where a signature is found and fails
    where none is, and misses what the search misses. -/
theorem reads_search_iff {o : Option (List Char)} {m : List (Symbol × List Char)} :
    search.Reads s o m ↔
      o = (findSignature? s).map (fun _ => []) ∧ m = recorded (searchMisses s) := by
  obtain ⟨r, m₁, m₂, hscan, hbehind, hmisses⟩ := exists_reads_scan s
  have hread : search.Reads s _ _ := .seq hscan hbehind
  rw [← hmisses] at hread
  constructor
  · exact fun h => h.unique hread
  · rintro ⟨rfl, rfl⟩
    exact hread

end MethodSig
