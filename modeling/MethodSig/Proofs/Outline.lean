import MethodSig.Proofs.Leftmost

/-!
# `Proofs.Outline` — what the grammar sees of a text

The *outline* of a text keeps its word characters and its parentheses, shows every run of blanks as one
space and each other character as a comma. It is a text of another length, in which there are fewer
positions to search from, and it says the same to the grammar: each rule reads the outline as it reads
the text, and what it leaves of the outline is the outline of what it leaves of the text
(`pair?_outline`, `paramsUntil_outline`, `signature?_outline`). The search passes over the characters
that the outline drops, since no signature begins with a blank.

So texts with one outline hold the same signature and the same parameters. In particular this is so of
texts that differ in their runs of blanks only (`Respaced`).
-/

namespace MethodSig

variable {p : Char → Bool} {c : Char} {s t w b rest : List Char}

/-! ## Outlines -/

/-- The character by which the outline shows `c`. -/
def outlineChar (c : Char) : Char :=
  if isBlank c then ' ' else if isWordChar c || c == '(' || c == ')' then c else ','

/-- The outline of a text. Of a run of blanks it shows the last one. -/
def outline : List Char → List Char
  | [] => []
  | c :: s => if isBlank c && s.head?.any isBlank then outline s else outlineChar c :: outline s

theorem outlineChar_of_isBlank (hc : isBlank c = true) : outlineChar c = ' ' := by
  rw [outlineChar, if_pos hc]

theorem outlineChar_of_isWordChar (hc : isWordChar c = true) : outlineChar c = c := by
  rw [outlineChar, isBlank_of_isWordChar hc, hc]
  rfl

/-- The outline keeps what a class says of a character, if the class does not tell blanks apart, nor the
    characters that become commas. -/
theorem apply_outlineChar (hblank : ∀ d, isBlank d = true → p d = p ' ')
    (hcomma : ∀ d, isWordChar d = false → d ≠ '(' → d ≠ ')' → isBlank d = false → p d = p ',')
    (c : Char) : p (outlineChar c) = p c := by
  unfold outlineChar
  split
  · rename_i hc
    exact (hblank c hc).symm
  · rename_i hc
    split
    · rfl
    · rename_i hkept
      simp only [Bool.or_eq_true, beq_iff_eq, not_or, Bool.not_eq_true] at hkept hc
      exact (hcomma c hkept.1.1 hkept.1.2 hkept.2 hc).symm

theorem isWordChar_outlineChar (c : Char) : isWordChar (outlineChar c) = isWordChar c :=
  apply_outlineChar (fun _ hd => isWordChar_of_isBlank hd) (fun _ hd _ _ _ => hd) c

theorem isBlank_outlineChar (c : Char) : isBlank (outlineChar c) = isBlank c :=
  apply_outlineChar (fun _ hd => hd) (fun _ _ _ _ hd => hd) c

theorem outlineChar_beq_open (c : Char) : (outlineChar c == '(') = (c == '(') := by
  refine apply_outlineChar (p := (· == '(')) (fun d hd => ?_) (fun d _ hd _ _ => ?_) c
  · exact beq_eq_false_iff_ne.mpr (by rintro rfl; exact absurd hd (by decide))
  · exact beq_eq_false_iff_ne.mpr hd

theorem beq_close_of_isBlank (c : Char) (hc : isBlank c = true) : (c == ')') = false :=
  beq_eq_false_iff_ne.mpr (by rintro rfl; exact absurd hc (by decide))

theorem outlineChar_beq_close (c : Char) : (outlineChar c == ')') = (c == ')') :=
  apply_outlineChar (p := (· == ')')) beq_close_of_isBlank
    (fun _ _ _ hd _ => beq_eq_false_iff_ne.mpr hd) c

/-- A character is shown, or it is a blank before another one. -/
theorem outline_cons (c : Char) (s : List Char) :
    (isBlank c = true ∧ outline (c :: s) = outline s) ∨ outline (c :: s) = outlineChar c :: outline s := by
  rw [outline]
  split
  · rename_i h
    exact Or.inl ⟨(Bool.and_eq_true_iff.mp h).1, rfl⟩
  · exact Or.inr rfl

theorem outline_cons_of_not_blank (hc : isBlank c = false) :
    outline (c :: s) = outlineChar c :: outline s := by
  rw [outline, hc]
  rfl

/-- An outline begins as the text begins. -/
theorem head?_outline (s : List Char) : (outline s).head? = s.head?.map outlineChar := by
  induction s with
  | nil => rfl
  | cons c s ih =>
      rw [outline]
      split
      · rename_i h
        -- the next character is a blank as well, and both are shown as a space
        obtain ⟨hc, hnext⟩ := Bool.and_eq_true_iff.mp h
        cases s with
        | nil => exact absurd hnext (by simp)
        | cons d s =>
            have hd : isBlank d = true := hnext
            rw [ih, List.head?_cons, List.head?_cons, Option.map_some, Option.map_some,
              outlineChar_of_isBlank hc, outlineChar_of_isBlank hd]
      · rfl

theorem stops_outline (hp : ∀ c, p (outlineChar c) = p c) : Stops p (outline s) ↔ Stops p s := by
  unfold Stops
  rw [head?_outline]
  cases s with
  | nil => simp
  | cons c s => simp [hp]

/-- Word characters are shown as they are. -/
theorem outline_append_of_word (hw : ∀ c ∈ w, isWordChar c = true) :
    outline (w ++ s) = w ++ outline s := by
  induction w with
  | nil => rfl
  | cons c w ih =>
      have hc : isWordChar c = true := hw c List.mem_cons_self
      rw [List.cons_append, outline_cons_of_not_blank (isBlank_of_isWordChar hc),
        outlineChar_of_isWordChar hc, ih fun d hd => hw d (List.mem_cons_of_mem c hd)]
      rfl

/-- A run of blanks is shown as one space, or not at all where it goes on. -/
theorem outline_append_of_blanks (hb : IsBlanks b) :
    outline (b ++ s) = if s.head?.any isBlank then outline s else ' ' :: outline s := by
  obtain ⟨hne, hall⟩ := hb
  induction b with
  | nil => exact absurd rfl hne
  | cons c b ih =>
      have hc : isBlank c = true := hall c List.mem_cons_self
      cases b with
      | nil => rw [List.singleton_append, outline, hc, Bool.true_and, outlineChar_of_isBlank hc]
      | cons d b =>
          have hd : isBlank d = true := hall d (by simp)
          rw [← ih (List.cons_ne_nil d b) fun e he => hall e (List.mem_cons_of_mem c he),
            List.cons_append, outline]
          simp [hc, hd]

/-- Where the outline begins with word characters, the text does. -/
theorem exists_append_of_outline (hw : ∀ c ∈ w, isWordChar c = true) (h : outline s = w ++ t) :
    ∃ rest, s = w ++ rest := by
  induction w generalizing s with
  | nil => exact ⟨s, rfl⟩
  | cons c w ih =>
      have hc : isWordChar c = true := hw c List.mem_cons_self
      have hhead : s.head?.map outlineChar = some c := by
        rw [← head?_outline, h]
        rfl
      cases s with
      | nil => exact absurd hhead (by simp)
      | cons d s =>
          have hdc : outlineChar d = c := Option.some.inj hhead
          have hd : isWordChar d = true := by rw [← isWordChar_outlineChar, hdc, hc]
          rw [outlineChar_of_isWordChar hd] at hdc
          subst hdc
          rw [outline_cons_of_not_blank (isBlank_of_isWordChar hd), outlineChar_of_isWordChar hd,
            List.cons_append] at h
          obtain ⟨rest, rfl⟩ :=
            ih (fun e he => hw e (List.mem_cons_of_mem d he)) (List.cons.inj h).2
          exact ⟨rest, rfl⟩

/-! ## The rules of the grammar -/

theorem word?_outline (s : List Char) :
    word? (outline s) = (word? s).map fun r => (r.1, outline r.2) := by
  cases h : word? s with
  | none =>
      have hstop : Stops isWordChar s := run?_eq_none_iff.mp h
      exact run?_eq_none_iff.mpr ((stops_outline isWordChar_outlineChar).mpr hstop)
  | some r =>
      obtain ⟨w, rest⟩ := r
      obtain ⟨hw, hstop, rfl⟩ := run?_eq_some_iff_append.mp h
      rw [outline_append_of_word hw.all]
      exact hw.run?_append ((stops_outline isWordChar_outlineChar).mpr hstop)

theorem blanks?_outline (s : List Char) :
    blanks? (outline s) = (blanks? s).map fun r => ([' '], outline r.2) := by
  cases h : blanks? s with
  | none =>
      have hstop : Stops isBlank s := run?_eq_none_iff.mp h
      exact run?_eq_none_iff.mpr ((stops_outline isBlank_outlineChar).mpr hstop)
  | some r =>
      obtain ⟨b, rest⟩ := r
      obtain ⟨hb, hstop, rfl⟩ := run?_eq_some_iff_append.mp h
      have hrest : rest.head?.any isBlank = false := by
        cases rest with
        | nil => rfl
        | cons c rest => exact stops_cons.mp hstop
      have hspace : IsBlanks [' '] := by decide
      rw [outline_append_of_blanks hb, hrest]
      exact hspace.run?_append ((stops_outline isBlank_outlineChar).mpr hstop)

/-- **Pairs.** -/
theorem pair?_outline (s : List Char) :
    pair? (outline s) = (pair? s).map fun r => (r.1, outline r.2) := by
  simp only [pair?, Option.bind_eq_bind, word?_outline, Option.pure_def]
  cases word? s with
  | none => rfl
  | some r =>
      simp only [Option.map_some, Option.bind_some, blanks?_outline]
      cases blanks? r.2 with
      | none => rfl
      | some b =>
          simp only [Option.map_some, Option.bind_some, word?_outline]
          cases word? b.2 <;> rfl

/-- **Parameter lists**, up to a character that the outline does not change. -/
theorem paramsUntil_outline {stop : Char → Bool} (hstop : ∀ c, stop (outlineChar c) = stop c)
    (hblank : ∀ c, isBlank c = true → stop c = false) (s : List Char) :
    paramsUntil stop (outline s) = ((paramsUntil stop s).1, outline (paramsUntil stop s).2) := by
  fun_induction paramsUntil stop s with
  | case1 s p rest hp params rest' hrec ih =>
      have hp' : pair? (outline s) = some (p, outline rest) := by
        rw [pair?_outline, hp]
        rfl
      rw [paramsUntil_of_pair? stop hp', ih, hrec]
  | case2 => exact paramsUntil_nil stop
  | case3 c s hnone hc =>
      -- the list ends here; the character is no blank, so the outline has it too
      have hc' : isBlank c = false := by
        by_contra h
        rw [hblank c (Bool.not_eq_false _ ▸ h)] at hc
        exact absurd hc (by simp)
      have hnone' : pair? (outlineChar c :: outline s) = none := by
        rw [← outline_cons_of_not_blank hc', pair?_outline, hnone]
        rfl
      rw [outline_cons_of_not_blank hc', paramsUntil_cons stop hnone', hstop, hc]
      rfl
  | case4 c s hnone hc ih =>
      rcases outline_cons c s with ⟨-, hsame⟩ | hshown
      · rw [hsame, ih]
      · have hnone' : pair? (outlineChar c :: outline s) = none := by
          rw [← hshown, pair?_outline, hnone]
          rfl
        have hc' : stop (outlineChar c) = false := by rw [hstop]; exact Bool.eq_false_iff.mpr hc
        rw [hshown, paramsUntil_cons stop hnone', hc', ← ih]
        rfl

theorem paramsIn_outline (s : List Char) : paramsIn (outline s) = paramsIn s := by
  rw [paramsIn, paramsUntil_outline (fun _ => rfl) (fun _ _ => rfl), paramsIn]

theorem outline_open (s : List Char) : outline ('(' :: s) = '(' :: outline s :=
  outline_cons_of_not_blank (by decide)

theorem outline_close (s : List Char) : outline (')' :: s) = ')' :: outline s :=
  outline_cons_of_not_blank (by decide)

theorem exists_open_of_not_stops (h : ¬ Stops (· == '(') s) : ∃ t, s = '(' :: t := by
  cases s with
  | nil => exact absurd stops_nil h
  | cons c t =>
      rw [stops_cons, Bool.not_eq_false, beq_iff_eq] at h
      exact ⟨t, by rw [h]⟩

/-- **Declarations.** -/
theorem declaration?_outline (visibility : Option Visibility) (s : List Char) :
    declaration? visibility (outline s) =
      (declaration? visibility s).map fun r => (r.1, outline r.2) := by
  have hpair := pair?_outline s
  cases hp : pair? s with
  | none =>
      rw [hp] at hpair
      simp [declaration?, hp, hpair]
  | some r =>
      obtain ⟨⟨returnType, name⟩, rest⟩ := r
      rw [hp] at hpair
      by_cases hopen : Stops (· == '(') rest
      · have hopen' : Stops (· == '(') (outline rest) := (stops_outline outlineChar_beq_open).mpr hopen
        rw [declaration?_eq_none_of_pair? hp hopen, declaration?_eq_none_of_pair? hpair hopen']
        rfl
      · obtain ⟨t, rfl⟩ := exists_open_of_not_stops hopen
        have hparams := paramsUntil_outline outlineChar_beq_close beq_close_of_isBlank t
        rw [Option.map_some, outline_open] at hpair
        simp only [declaration?, Option.bind_eq_bind, hp, hpair, Option.bind_some, hparams]
        -- the list ends at a parenthesis, in the text and in its outline, or in neither
        cases hlist : paramsUntil (· == ')') t with
        | mk params rest =>
            rcases paramsUntil_rest (· == ')') t with hend | ⟨c, rest', hend, hc⟩
            · rw [hlist] at hend
              subst hend
              rfl
            · rw [hlist] at hend
              subst hend
              rw [eq_of_beq hc]
              simp only [outline_close, Option.map_some]

theorem visibility?_outline (s : List Char) :
    visibility? (outline s) = (visibility? s).map fun r => (r.1, outline r.2) := by
  cases h : visibility? s with
  | some r =>
      obtain ⟨v, rest⟩ := r
      rw [visibility?_eq_some_iff.mp h, outline_append_of_word v.isWord_keyword.all]
      exact visibility?_eq_some_iff.mpr rfl
  | none =>
      cases h' : visibility? (outline s) with
      | none => rfl
      | some r =>
          obtain ⟨v, t⟩ := r
          obtain ⟨rest, hs⟩ :=
            exists_append_of_outline v.isWord_keyword.all (visibility?_eq_some_iff.mp h')
          rw [visibility?_eq_some_iff.mpr hs] at h
          exact absurd h (by simp)

theorem visibleDeclaration?_outline (s : List Char) :
    visibleDeclaration? (outline s) = (visibleDeclaration? s).map fun r => (r.1, outline r.2) := by
  simp only [visibleDeclaration?, Option.bind_eq_bind, visibility?_outline]
  cases visibility? s with
  | none => rfl
  | some r =>
      simp only [Option.map_some, Option.bind_some, blanks?_outline]
      cases blanks? r.2 with
      | none => rfl
      | some b => simp only [Option.map_some, Option.bind_some, declaration?_outline]

/-- **Signatures.** -/
theorem signature?_outline (s : List Char) :
    signature? (outline s) = (signature? s).map fun r => (r.1, outline r.2) := by
  rw [signature?, visibleDeclaration?_outline, declaration?_outline, signature?, Option.map_or]

/-- **The search** finds in the outline what it finds in the text. -/
theorem findSignature?_outline (s : List Char) : findSignature? (outline s) = findSignature? s := by
  induction s with
  | nil => rfl
  | cons c s ih =>
      have hsignature := signature?_outline (c :: s)
      cases h : signature? (c :: s) with
      | some r =>
          obtain ⟨d, rest⟩ := r
          rw [h] at hsignature
          rw [findSignature?_of_signature? h, findSignature?_of_signature? hsignature]
      | none =>
          rw [h] at hsignature
          rw [findSignature?_cons_of_none h, ← ih]
          rcases outline_cons c s with ⟨-, hsame⟩ | hshown
          · rw [hsame]
          · rw [hshown] at hsignature ⊢
            exact findSignature?_cons_of_none hsignature

/-! ## Texts with one outline -/

/-- The second text is the first with runs of blanks replaced by other runs of blanks. -/
inductive Respaced : List Char → List Char → Prop
  /-- The end of both texts. -/
  | nil : Respaced [] []
  /-- A character stays. -/
  | keep (c : Char) {s t : List Char} : Respaced s t → Respaced (c :: s) (c :: t)
  /-- A run of blanks is replaced. -/
  | blanks {b b' s t : List Char} : IsBlanks b → IsBlanks b' → Respaced s t →
      Respaced (b ++ s) (b' ++ t)

/-- Whether a text begins with a blank can be told from its outline. -/
theorem any_head?_of_outline_eq (h : outline s = outline t) :
    s.head?.any isBlank = t.head?.any isBlank := by
  have hany : ∀ s : List Char, s.head?.any isBlank = (outline s).head?.any isBlank := by
    intro s
    rw [head?_outline]
    cases s with
    | nil => rfl
    | cons c s => exact (isBlank_outlineChar c).symm
  rw [hany, h, ← hany]

theorem Respaced.outline_eq (h : Respaced s t) : outline s = outline t := by
  induction h with
  | nil => rfl
  | keep c _ ih => rw [outline, any_head?_of_outline_eq ih, ih, outline]
  | blanks hb hb' _ ih =>
      rw [outline_append_of_blanks hb, outline_append_of_blanks hb', any_head?_of_outline_eq ih, ih]

/-- The outline of a text, as a text. -/
def outlineText (s : String) : String := String.ofList (outline s.toList)

/-- **Parsing sees the outline only.** A text is parsed as its outline is, and the parameters in it are
    those in its outline; so texts with one outline are read alike, such as texts that differ in their
    runs of blanks. -/
theorem parse_outlineText :
    (∀ s : String, (∀ d, Signature.parse (outlineText s) = .ok d ↔ Signature.parse s = .ok d) ∧
        paramsIn (outlineText s).toList = paramsIn s.toList) ∧
      (∀ s t : String, outlineText s = outlineText t →
        (∀ d, Signature.parse s = .ok d ↔ Signature.parse t = .ok d) ∧
          paramsIn s.toList = paramsIn t.toList) ∧
      ∀ s t : String, Respaced s.toList t.toList →
        (∀ d, Signature.parse s = .ok d ↔ Signature.parse t = .ok d) ∧
          paramsIn s.toList = paramsIn t.toList := by
  have hself : ∀ s : String,
      (∀ d, Signature.parse (outlineText s) = .ok d ↔ Signature.parse s = .ok d) ∧
        paramsIn (outlineText s).toList = paramsIn s.toList := by
    intro s
    simp only [parse_eq_ok_iff, outlineText, String.toList_ofList, findSignature?_outline,
      paramsIn_outline, implies_true, and_self]
  have hsame : ∀ s t : String, outlineText s = outlineText t →
      (∀ d, Signature.parse s = .ok d ↔ Signature.parse t = .ok d) ∧
        paramsIn s.toList = paramsIn t.toList := by
    intro s t h
    refine ⟨fun d => ?_, ?_⟩
    · rw [← (hself s).1 d, h, (hself t).1 d]
    · rw [← (hself s).2, h, (hself t).2]
  refine ⟨hself, hsame, fun s t h => hsame s t ?_⟩
  rw [outlineText, h.outline_eq, outlineText]

theorem parse_outlineText_respaced :
    outlineText "é=private \tint  f(a b[ ])" = outlineText ";;private int f(a\nb<\r>)" ∧
      Signature.parse "é=private \tint  f(a b[ ])" = .ok ⟨some .priv, "int", "f", [⟨"a", "b"⟩]⟩ ∧
      Signature.parse ";;private int f(a\nb<\r>)" = .ok ⟨some .priv, "int", "f", [⟨"a", "b"⟩]⟩ ∧
      Respaced "int\t f(a b)".toList "int f(a\n\n b)".toList ∧
      Signature.parse "int f(a\n\n b)" = .ok ⟨none, "int", "f", [⟨"a", "b"⟩]⟩ := by
  have houtline : outlineText "é=private \tint  f(a b[ ])" =
      outlineText ";;private int f(a\nb<\r>)" := by decide +kernel
  have hparse : Signature.parse "é=private \tint  f(a b[ ])" =
      .ok ⟨some .priv, "int", "f", [⟨"a", "b"⟩]⟩ := parse_eq_ok_iff.mpr (by decide +kernel)
  have hparse' : Signature.parse "int\t f(a b)" = .ok ⟨none, "int", "f", [⟨"a", "b"⟩]⟩ :=
    parse_eq_ok_iff.mpr (by decide +kernel)
  have hrespaced : Respaced "int\t f(a b)".toList "int f(a\n\n b)".toList :=
    .keep 'i' (.keep 'n' (.keep 't' (@Respaced.blanks ['\t', ' '] [' '] _ _ (by decide) (by decide)
      (.keep 'f' (.keep '(' (.keep 'a' (@Respaced.blanks [' '] ['\n', '\n', ' '] _ _ (by decide)
        (by decide) (.keep 'b' (.keep ')' .nil)))))))))
  exact ⟨houtline, hparse, ((parse_outlineText.2.1 _ _ houtline).1 _).mp hparse, hrespaced,
    ((parse_outlineText.2.2 _ _ hrespaced).1 _).mp hparse'⟩

end MethodSig
