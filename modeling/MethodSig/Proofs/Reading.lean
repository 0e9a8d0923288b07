import MethodSig.Proofs.Params

/-!
# `Proofs.Reading` — what it takes to be a signature

A *reading* says what a signature at the front of a text is made of: a *head*, which is a visibility
keyword with blanks or nothing, a return type, blanks and a name; then the parentheses and what stands
between them. Nothing is said about runs being maximal or about an order in which to try things; it is
the plain description of the form `[visibility] type name(...)`.

`signature?` finds exactly the readings (`signature?_eq_some_iff`), so taking runs whole loses none.
The two ways of reading exclude each other: where a keyword leads to a declaration, the keyword is not
itself a return type (`declaration?_eq_none_of_visible`).
-/

namespace MethodSig

variable {s t rest : List Char} {v : Visibility} {visibility : Option Visibility} {d : Signature}

/-! ## Keywords -/

theorem Visibility.isWord_keyword (v : Visibility) : IsWord v.keyword.toList := by
  cases v <;> decide

/-- A keyword is found wherever the text begins with it. -/
theorem visibility?_eq_some_iff : visibility? s = some (v, rest) ↔ s = v.keyword.toList ++ rest := by
  constructor
  · intro h
    obtain ⟨v', -, hv'⟩ := List.exists_of_findSome?_eq_some h
    by_cases hpre : v'.keyword.toList.isPrefixOf s = true
    · obtain ⟨t, rfl⟩ := List.isPrefixOf_iff_prefix.mp hpre
      simp only [hpre, if_true, List.drop_left, Option.some.injEq, Prod.mk.injEq] at hv'
      obtain ⟨rfl, rfl⟩ := hv'
      rfl
    · simp [hpre] at hv'
  · rintro rfl
    cases v <;> rfl

/-! ## Declarations -/

/-- **What a declaration is made of.** -/
theorem declaration?_eq_some_iff :
    declaration? visibility s = some (d, rest) ↔
      ∃ r b n body, IsWord r ∧ IsBlanks b ∧ IsWord n ∧ ')' ∉ body ∧
        s = r ++ b ++ n ++ '(' :: (body ++ ')' :: rest) ∧
        d = ⟨visibility, String.ofList r, String.ofList n, paramsIn body⟩ := by
  constructor
  · intro h
    simp only [declaration?, Option.bind_eq_bind, Option.bind_eq_some_iff] at h
    obtain ⟨⟨⟨r, n⟩, t⟩, hpair, h⟩ := h
    obtain ⟨hr, hn, -, b, hb, rfl⟩ := pair?_eq_some_iff.mp hpair
    split at h
    · rename_i t htail
      cases htail
      have hsuffix := paramsUntil_suffix (· == ')') t
      split at h
      · rename_i params rest' hparams
        -- a closing parenthesis is left, so there is a first one and the list ends there
        have hmem : ')' ∈ t := by
          rw [hparams] at hsuffix
          exact hsuffix.subset List.mem_cons_self
        obtain ⟨body, rest'', rfl, hbody⟩ := List.eq_append_cons_of_mem hmem
        rw [paramsUntil_append_closing hbody] at hparams
        cases hparams
        simp only [Option.some.injEq, Prod.mk.injEq] at h
        obtain ⟨rfl, rfl⟩ := h
        exact ⟨r, b, n, body, hr, hb, hn, hbody, rfl, rfl⟩
      · exact absurd h (by simp)
    · exact absurd h (by simp)
  · rintro ⟨r, b, n, body, hr, hb, hn, hbody, rfl, rfl⟩
    have hpair : pair? (r ++ b ++ n ++ '(' :: (body ++ ')' :: rest)) =
        some ((r, n), '(' :: (body ++ ')' :: rest)) :=
      pair?_eq_some_iff.mpr ⟨hr, hn, stops_cons.mpr (by decide), b, hb, rfl⟩
    simp only [declaration?, Option.bind_eq_bind, hpair, Option.bind_some,
      paramsUntil_append_closing hbody]

/-- **What a declaration behind a keyword is made of.** -/
theorem visibleDeclaration?_eq_some_iff :
    visibleDeclaration? s = some (d, rest) ↔
      ∃ v b t, IsBlanks b ∧ s = v.keyword.toList ++ b ++ t ∧
        declaration? (some v) t = some (d, rest) := by
  simp only [visibleDeclaration?, Option.bind_eq_bind, Option.bind_eq_some_iff, Prod.exists,
    visibility?_eq_some_iff, run?_eq_some_iff_append]
  constructor
  · rintro ⟨v, _, rfl, b, t, ⟨hb, -, rfl⟩, hd⟩
    exact ⟨v, b, t, hb, by simp, hd⟩
  · rintro ⟨v, b, t, hb, rfl, hd⟩
    -- the blanks are all that are there, since a declaration begins with a word
    have hstop : Stops isBlank t := by
      obtain ⟨r, _, _, _, hr, -, -, -, rfl, -⟩ := declaration?_eq_some_iff.mp hd
      simp only [List.append_assoc]
      exact hr.stops_append fun _ => isBlank_of_isWordChar
    exact ⟨v, b ++ t, by simp, b, t, ⟨hb, hstop, rfl⟩, hd⟩

/-- A pair that is not followed by a parenthesis does not begin a declaration. -/
theorem declaration?_eq_none_of_pair? {p : List Char × List Char} (h : pair? s = some (p, rest))
    (hstop : Stops (· == '(') rest) : declaration? visibility s = none := by
  simp only [declaration?, Option.bind_eq_bind, h, Option.bind_some]
  split
  · exact absurd (stops_cons.mp hstop) (by decide)
  · rfl

/-- **A keyword before a declaration is no return type.** The pair at the front is the keyword and the
    return type, and blanks follow it. -/
theorem declaration?_eq_none_of_visible {found : Signature × List Char}
    (h : visibleDeclaration? s = some found) : declaration? visibility s = none := by
  obtain ⟨d, rest⟩ := found
  obtain ⟨v, b, t, hb, rfl, hd⟩ := visibleDeclaration?_eq_some_iff.mp h
  obtain ⟨r, b', n, body, hr, hb', -, -, rfl, -⟩ := declaration?_eq_some_iff.mp hd
  have hpair : pair? (v.keyword.toList ++ b ++ r ++ (b' ++ (n ++ '(' :: (body ++ ')' :: rest)))) =
      some ((v.keyword.toList, r), b' ++ (n ++ '(' :: (body ++ ')' :: rest))) :=
    pair?_eq_some_iff.mpr ⟨v.isWord_keyword, hr, hb'.stops_append fun _ => isWordChar_of_isBlank,
      b, hb, rfl⟩
  have hparen : ∀ c, isBlank c = true → (c == '(') = false := by
    intro c hc
    exact beq_eq_false_iff_ne.mpr (by rintro rfl; exact absurd hc (by decide))
  simp only [List.append_assoc] at hpair ⊢
  exact declaration?_eq_none_of_pair? hpair (hb'.stops_append hparen)

theorem visibleDeclaration?_eq_none_of_declaration? {found : Signature × List Char}
    (h : declaration? visibility s = some found) : visibleDeclaration? s = none := by
  cases hvis : visibleDeclaration? s with
  | none => rfl
  | some found' =>
      rw [declaration?_eq_none_of_visible hvis] at h
      exact absurd h (by simp)

/-! ## Readings -/

/-- What a signature says, in the words of the text. -/
structure Reading where
  /-- The visibility, where a keyword is there. -/
  visibility : Option Visibility
  /-- The return type. -/
  returnType : List Char
  /-- The name. -/
  name : List Char
  /-- What stands between the parentheses. -/
  body : List Char

/-- What may stand before the return type: the keyword with blanks behind it, or nothing. -/
def IsLead : Option Visibility → List Char → Prop
  | none, lead => lead = []
  | some v, lead => ∃ b, IsBlanks b ∧ lead = v.keyword.toList ++ b

theorem isLead_nil : IsLead none [] := rfl

theorem IsLead.not_separator {lead : List Char} (h : IsLead visibility lead) :
    ∀ c ∈ lead, isSeparator c = false := by
  cases visibility with
  | none => simp [show lead = [] from h]
  | some v =>
      obtain ⟨b, hb, rfl⟩ := h
      intro c hc
      rcases List.mem_append.mp hc with hc | hc
      · exact v.isWord_keyword.not_separator_of_word c hc
      · exact hb.not_separator_of_blanks c hc

namespace Reading

/-- The text up to the opening parenthesis: `[visibility ]type name` with any blanks. -/
def Heads (ρ : Reading) (heading : List Char) : Prop :=
  IsWord ρ.returnType ∧ IsWord ρ.name ∧ ∃ lead b, IsLead ρ.visibility lead ∧ IsBlanks b ∧
    heading = lead ++ ρ.returnType ++ b ++ ρ.name

/-- **A reading of the text `s`**: its front is `[visibility ]type name(body)`, with `rest` behind it. -/
def Fits (ρ : Reading) (s rest : List Char) : Prop :=
  ')' ∉ ρ.body ∧ ∃ heading, ρ.Heads heading ∧ s = heading ++ '(' :: (ρ.body ++ ')' :: rest)

/-- The signature that is read. -/
def signature (ρ : Reading) : Signature :=
  ⟨ρ.visibility, String.ofList ρ.returnType, String.ofList ρ.name, paramsIn ρ.body⟩

variable {ρ : Reading} {heading : List Char}

/-- A heading is made of words and blanks. -/
theorem Heads.not_separator (h : ρ.Heads heading) : ∀ c ∈ heading, isSeparator c = false := by
  obtain ⟨hr, hn, lead, b, hlead, hb, rfl⟩ := h
  intro c hc
  simp only [List.mem_append] at hc
  rcases hc with ((hc | hc) | hc) | hc
  · exact hlead.not_separator c hc
  · exact hr.not_separator_of_word c hc
  · exact hb.not_separator_of_blanks c hc
  · exact hn.not_separator_of_word c hc

theorem Heads.paren_notMem (h : ρ.Heads heading) : '(' ∉ heading :=
  fun hmem => absurd (h.not_separator '(' hmem) (by decide)

/-- A heading begins with a word character. -/
theorem Heads.exists_cons (h : ρ.Heads heading) :
    ∃ c tail, heading = c :: tail ∧ isWordChar c = true := by
  obtain ⟨hr, -, lead, b, hlead, -, rfl⟩ := h
  cases hv : ρ.visibility with
  | none =>
      rw [hv] at hlead
      rw [show lead = [] from hlead, List.nil_append, List.append_assoc]
      exact hr.exists_cons_append
  | some v =>
      rw [hv] at hlead
      obtain ⟨b', -, rfl⟩ := hlead
      simp only [List.append_assoc]
      exact v.isWord_keyword.exists_cons_append

/-- A reading stays one when the text goes on. -/
theorem Fits.append (h : ρ.Fits s rest) (t : List Char) : ρ.Fits (s ++ t) (rest ++ t) := by
  obtain ⟨hbody, heading, hhead, rfl⟩ := h
  exact ⟨hbody, heading, hhead, by simp⟩

end Reading

/-- **`signature?` finds exactly the readings.** -/
theorem signature?_eq_some_iff :
    signature? s = some (d, rest) ↔ ∃ ρ : Reading, ρ.Fits s rest ∧ ρ.signature = d := by
  rw [signature?, Option.or_eq_some_iff]
  constructor
  · rintro (h | ⟨-, h⟩)
    · obtain ⟨v, b, t, hb, rfl, hd⟩ := visibleDeclaration?_eq_some_iff.mp h
      obtain ⟨r, b', n, body, hr, hb', hn, hbody, rfl, rfl⟩ := declaration?_eq_some_iff.mp hd
      refine ⟨⟨some v, r, n, body⟩, ⟨hbody, _, ⟨hr, hn, _, b', ⟨b, hb, rfl⟩, hb', rfl⟩, ?_⟩, rfl⟩
      simp
    · obtain ⟨r, b, n, body, hr, hb, hn, hbody, rfl, rfl⟩ := declaration?_eq_some_iff.mp h
      exact ⟨⟨none, r, n, body⟩, ⟨hbody, _, ⟨hr, hn, [], b, isLead_nil, hb, rfl⟩, rfl⟩, rfl⟩
  · rintro ⟨⟨visibility, r, n, body⟩, ⟨hbody, _, ⟨hr, hn, lead, b, hlead, hb, rfl⟩, rfl⟩, rfl⟩
    -- behind the lead stands a declaration; with a keyword the first way reads it, else the second
    have hdecl : declaration? visibility (r ++ b ++ n ++ '(' :: (body ++ ')' :: rest)) =
        some (⟨visibility, String.ofList r, String.ofList n, paramsIn body⟩, rest) :=
      declaration?_eq_some_iff.mpr ⟨r, b, n, body, hr, hb, hn, hbody, rfl, rfl⟩
    cases visibility with
    | none =>
        cases hlead
        exact Or.inr ⟨visibleDeclaration?_eq_none_of_declaration? hdecl, hdecl⟩
    | some v =>
        obtain ⟨b', hb', rfl⟩ := hlead
        exact Or.inl (visibleDeclaration?_eq_some_iff.mpr ⟨v, b', _, hb', by simp, hdecl⟩)

end MethodSig
