import MethodSig.Proofs.Params
import MethodSig.Proofs.Tokens

/-!
# `Proofs.Pairing` — the parameters of a text, counted in words

The grammar finds parameters by trying a pair at every position and passing over one character where
there is none. Here the same parameters are described without positions: a text is cut at its
separators into *segments*, and in each segment the words are taken two by two (`pairedIn`). A last word
without a partner declares nothing.

The two agree (`paramsUntil_eq_pairedIn`). Where no pair begins at a word, that word is the last one of its
segment (`segment_cases`), so what is tried inside of it, from its second character on, has no second word
either (`paramsIn_lone`).
-/

namespace MethodSig

variable {s t w b rest : List Char} {c : Char}

/-! ## Words and segments -/

/-- The words of a text, each as long as it can be, in order. -/
def wordsIn (s : List Char) : List (List Char) :=
  (s.splitOnP fun c => !isWordChar c).filter fun piece => !piece.isEmpty

/-- What is left of a text when it is cut at every separator. -/
def segmentsIn (s : List Char) : List (List Char) := s.splitOnP isSeparator

/-- The parameters that words declare, two by two. A last word without a partner is dropped. -/
def pairWords : List (List Char) → List Param
  | type :: name :: others => .ofPair (type, name) :: pairWords others
  | [_] | [] => []

/-- The parameters of a text, segment by segment. -/
def pairedIn (s : List Char) : List Param :=
  (segmentsIn s).flatMap fun segment => pairWords (wordsIn segment)

@[simp] theorem wordsIn_nil : wordsIn [] = [] := rfl

/-- A character that is in no word cuts a text. -/
theorem wordsIn_append_cons (hc : isWordChar c = false) :
    wordsIn (s ++ c :: rest) = wordsIn s ++ wordsIn rest := by
  have hcut : (!isWordChar c) = true := by rw [hc]; rfl
  rw [wordsIn, List.splitOnP_append_cons s rest hcut, List.filter_append]
  rfl

theorem wordsIn_cons_of_not_word (hc : isWordChar c = false) : wordsIn (c :: s) = wordsIn s := by
  have hcut : wordsIn ([] ++ c :: s) = wordsIn [] ++ wordsIn s := wordsIn_append_cons hc
  rwa [wordsIn_nil] at hcut

theorem wordsIn_append_of_blanks (hb : ∀ c ∈ b, isBlank c = true) : wordsIn (b ++ s) = wordsIn s := by
  induction b with
  | nil => rfl
  | cons c b ih =>
      have hc : isWordChar c = false := isWordChar_of_isBlank (hb c List.mem_cons_self)
      rw [List.cons_append, wordsIn_cons_of_not_word hc]
      exact ih fun d hd => hb d (List.mem_cons_of_mem c hd)

/-- **A word that is not part of a longer one** is the first of the words. -/
theorem IsRun.wordsIn_append (hw : IsWord w) (hstop : Stops isWordChar rest) :
    wordsIn (w ++ rest) = w :: wordsIn rest := by
  have hwhole : wordsIn w = [w] := by
    have hpieces : w.splitOnP (fun c => !isWordChar c) = [w] :=
      List.splitOnP_eq_singleton fun c hc => by simp [hw.all c hc]
    rw [wordsIn, hpieces]
    simpa using hw.ne_nil
  cases rest with
  | nil => rw [List.append_nil, hwhole, wordsIn_nil]
  | cons c rest =>
      have hc : isWordChar c = false := stops_cons.mp hstop
      rw [wordsIn_append_cons hc, hwhole, wordsIn_cons_of_not_word hc]
      rfl

/-! ## A word without a partner -/

/-- A word with nothing but blanks behind it begins no pair. -/
theorem IsRun.pair?_lone (hw : IsWord w) (hb : ∀ c ∈ b, isBlank c = true) : pair? (w ++ b) = none := by
  by_cases hne : b = []
  · subst hne
    have hword : run? isWordChar (w ++ []) = some (w, []) := hw.run?_append stops_nil
    simp only [pair?, hword, Option.bind_eq_bind, Option.bind_some]
    rfl
  · have hblanks : IsBlanks b := ⟨hne, hb⟩
    have hstop : Stops isWordChar (b ++ []) := hblanks.stops_append fun _ => isWordChar_of_isBlank
    rw [List.append_nil] at hstop
    have hword : run? isWordChar (w ++ b) = some (w, b) := hw.run?_append hstop
    have hrest : run? isBlank (b ++ []) = some (b, []) := hblanks.run?_append stops_nil
    rw [List.append_nil] at hrest
    simp only [pair?, hword, hrest, Option.bind_eq_bind, Option.bind_some]
    rfl

/-- **Inside a word without a partner** nothing is found, wherever a pair is tried. -/
theorem paramsIn_lone (hw : ∀ c ∈ w, isWordChar c = true) (hb : ∀ c ∈ b, isBlank c = true) :
    paramsIn (w ++ b) = [] := by
  induction w with
  | nil =>
      induction b with
      | nil => simp [paramsIn]
      | cons c b ih =>
          have hc : isWordChar c = false := isWordChar_of_isBlank (hb c List.mem_cons_self)
          rw [List.nil_append, paramsIn_cons_of_not_word hc]
          exact ih fun d hd => hb d (List.mem_cons_of_mem c hd)
  | cons c w ih =>
      -- no pair begins at `c`, so `c` is passed over, and the rest of the word is tried
      have hword : IsWord (c :: w) := ⟨List.cons_ne_nil c w, hw⟩
      have hnone : pair? (c :: (w ++ b)) = none := hword.pair?_lone hb
      rw [List.cons_append, paramsIn, paramsUntil_cons _ hnone]
      exact ih fun d hd => hw d (List.mem_cons_of_mem c hd)

/-! ## Segments -/

/-- A text without separators that begins with neither class is empty. -/
theorem eq_nil_of_stops (hs : ∀ c ∈ s, isSeparator c = false) (hword : Stops isWordChar s)
    (hblank : Stops isBlank s) : s = [] := by
  cases s with
  | nil => rfl
  | cons c s =>
      have hc : isSeparator c = true := isSeparator_iff.mpr ⟨stops_cons.mp hword, stops_cons.mp hblank⟩
      rw [hs c List.mem_cons_self] at hc
      exact absurd hc (by simp)

/-- **How a segment begins**: with no word, with its last word, or with a pair. -/
theorem segment_cases (hs : ∀ c ∈ s, isSeparator c = false) :
    Stops isWordChar s ∨
      (∃ w b, IsWord w ∧ (∀ c ∈ b, isBlank c = true) ∧ s = w ++ b) ∨
      ∃ p rest, pair? s = some (p, rest) := by
  cases hword : run? isWordChar s with
  | none => exact Or.inl (run?_eq_none_iff.mp hword)
  | some first =>
      obtain ⟨w, t⟩ := first
      obtain ⟨hw, ht, rfl⟩ := run?_eq_some_iff_append.mp hword
      refine Or.inr ?_
      have hst : ∀ c ∈ t, isSeparator c = false := fun c hc => hs c (List.mem_append_right w hc)
      cases hblanks : run? isBlank t with
      | none =>
          have hnil : t = [] := eq_nil_of_stops hst ht (run?_eq_none_iff.mp hblanks)
          exact Or.inl ⟨w, [], hw, by simp, by rw [hnil]⟩
      | some gap =>
          obtain ⟨b, u⟩ := gap
          obtain ⟨hb, hu, rfl⟩ := run?_eq_some_iff_append.mp hblanks
          have hsu : ∀ c ∈ u, isSeparator c = false := fun c hc => hst c (List.mem_append_right b hc)
          cases hsecond : run? isWordChar u with
          | none =>
              have hnil : u = [] := eq_nil_of_stops hsu (run?_eq_none_iff.mp hsecond) hu
              exact Or.inl ⟨w, b, hw, hb.all, by rw [hnil, List.append_nil]⟩
          | some second =>
              obtain ⟨n, rest⟩ := second
              refine Or.inr ⟨(w, n), rest, ?_⟩
              simp only [pair?, hword, hblanks, hsecond, Option.bind_eq_bind, Option.bind_some]
              rfl

/-- **In a segment** the parameters are the words, two by two. -/
theorem paramsIn_eq_pairWords {s : List Char} (hs : ∀ c ∈ s, isSeparator c = false) :
    paramsIn s = pairWords (wordsIn s) := by
  rcases segment_cases hs with hstop | ⟨w, b, hw, hb, rfl⟩ | ⟨p, rest, hp⟩
  · cases s with
    | nil => simp [paramsIn, pairWords]
    | cons c s =>
        have hc : isWordChar c = false := stops_cons.mp hstop
        rw [paramsIn_cons_of_not_word hc, wordsIn_cons_of_not_word hc]
        exact paramsIn_eq_pairWords fun d hd => hs d (List.mem_cons_of_mem c hd)
  · have hstop : Stops isWordChar b := by
      intro c hc
      exact isWordChar_of_isBlank (hb c (List.mem_of_mem_head? hc))
    have hblanks : wordsIn b = [] := by
      have hwords := wordsIn_append_of_blanks (s := []) hb
      rwa [List.append_nil, wordsIn_nil] at hwords
    rw [paramsIn_lone hw.all hb, hw.wordsIn_append hstop, hblanks]
    rfl
  · have hlt : rest.length < s.length := length_lt_of_pair? hp
    obtain ⟨htype, hname, hstop, b, hb, rfl⟩ := pair?_eq_some_iff.mp hp
    have hrest : paramsIn rest = pairWords (wordsIn rest) :=
      paramsIn_eq_pairWords fun d hd => hs d (List.mem_append_right _ hd)
    have hbstop : Stops isWordChar (b ++ (p.2 ++ rest)) :=
      hb.stops_append fun _ => isWordChar_of_isBlank
    have hwords : wordsIn (p.1 ++ (b ++ (p.2 ++ rest))) = p.1 :: p.2 :: wordsIn rest := by
      rw [htype.wordsIn_append hbstop, wordsIn_append_of_blanks hb.all, hname.wordsIn_append hstop]
    have hparams : paramsIn (p.1 ++ b ++ p.2 ++ rest) = .ofPair p :: paramsIn rest := by
      rw [paramsIn, paramsUntil_of_pair? _ hp]
      rfl
    rw [hparams, hrest, List.append_assoc, List.append_assoc, hwords]
    rfl
termination_by s.length

/-- **From segment to segment.** A separator cuts a text into two whose words are not paired. -/
theorem pairedIn_append_cons (hc : isSeparator c = true) (hs : ∀ d ∈ s, isSeparator d = false) :
    pairedIn (s ++ c :: rest) = pairWords (wordsIn s) ++ pairedIn rest := by
  have hpiece : s.splitOnP isSeparator = [s] := List.splitOnP_eq_singleton hs
  rw [pairedIn, segmentsIn, List.splitOnP_append_cons s rest hc, hpiece, List.singleton_append,
    List.flatMap_cons]
  rfl

theorem paramsIn_eq_pairedIn (s : List Char) : paramsIn s = pairedIn s := by
  induction s using separator_induction (p := isSeparator) with
  | whole piece hpiece =>
      have hsegments : segmentsIn piece = [piece] := List.splitOnP_eq_singleton hpiece
      rw [pairedIn, hsegments, List.flatMap_singleton, paramsIn_eq_pairWords hpiece]
  | cut piece c rest hpiece hc ih =>
      rw [paramsIn_append_cons hc, pairedIn_append_cons hc hpiece, paramsIn_eq_pairWords hpiece, ih]

/-! ## No word is used twice -/

/-- The two words of a parameter. -/
def Param.words (p : Param) : List (List Char) := [p.type.toList, p.name.toList]

theorem words_pairWords_sublist (words : List (List Char)) :
    ((pairWords words).flatMap Param.words).Sublist words := by
  fun_induction pairWords words with
  | case1 type name others ih =>
      have hwords : (Param.ofPair (type, name)).words = [type, name] := by
        simp [Param.words, Param.ofPair]
      rw [List.flatMap_cons, hwords]
      exact (List.Sublist.refl [type, name]).append ih
  | case2 word => exact List.nil_sublist [word]
  | case3 => exact List.nil_sublist []

/-- The words of the parameters are words of the text, in their order, each used once. -/
theorem words_pairedIn_sublist (s : List Char) :
    ((pairedIn s).flatMap Param.words).Sublist (wordsIn s) := by
  induction s using separator_induction (p := isSeparator) with
  | whole piece hpiece =>
      rw [← paramsIn_eq_pairedIn, paramsIn_eq_pairWords hpiece]
      exact words_pairWords_sublist (wordsIn piece)
  | cut piece c rest hpiece hc ih =>
      have hword : isWordChar c = false := (isSeparator_iff.mp hc).1
      rw [pairedIn_append_cons hc hpiece, wordsIn_append_cons hword, List.flatMap_append]
      exact (words_pairWords_sublist (wordsIn piece)).append ih

/-- **The parameters of a text are its words, two by two in each segment.** Whatever the text is, it is
    read to its end. The words of the parameters are whole words of the text, in their order, and none is
    used twice. -/
theorem paramsUntil_eq_pairedIn (text : String) :
    paramsUntil (fun _ => false) text.toList = (pairedIn text.toList, []) ∧
      paramsIn text.toList = pairedIn text.toList ∧
      ((paramsIn text.toList).flatMap Param.words).Sublist (wordsIn text.toList) := by
  have hparams : paramsIn text.toList = pairedIn text.toList := paramsIn_eq_pairedIn text.toList
  have hrest : (paramsUntil (fun _ => false) text.toList).2 = [] := by
    rcases paramsUntil_rest (fun _ => false) text.toList with hnil | ⟨c, rest, -, hstop⟩
    · exact hnil
    · exact absurd hstop (by simp)
  refine ⟨Prod.ext hparams hrest, hparams, ?_⟩
  rw [hparams]
  exact words_pairedIn_sublist text.toList

/-- An odd word at the end of each segment, and a separator outside of ASCII between two words. -/
example : pairedIn "int x y,long\t z1;q a·b c\nd".toList =
    [⟨"int", "x"⟩, ⟨"long", "z1"⟩, ⟨"q", "a"⟩, ⟨"b", "c"⟩] := by decide +kernel

end MethodSig
