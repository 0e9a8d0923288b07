import MethodSig.Proofs.Enclosed
import MethodSig.Proofs.Misses

/-!
# `Proofs.Exclusive` — the two ways of a signature exclude each other

A signature is read behind a keyword, or else as a declaration alone, and a keyword is itself a word that
could be a return type. Still no text can be read in both ways, so it does not matter which of them is
tried first: a search that tries the declaration alone first finds the same signature in every text
(`findBy?_declarationFirst?`), and the grammar with its two ways exchanged takes the same texts.

The latter goes by *refinement*. A pattern refines another if it comes to the same wherever it comes to
something, whatever is missed on the way. Patterns put together from refining parts refine each other, and
a choice refines the choice in the opposite order if at most one of its ways is ever there
(`refines_choice_comm`).
-/

namespace MethodSig

/-! ## Searching with a rule -/

/-- What a rule reads at the front of a text, and what follows it. -/
abbrev Rule := List Char → Option (Signature × List Char)

/-- The signature at the first position of the text where the rule reads one. -/
def findBy? (rule : Rule) : List Char → Option Signature
  | [] => (rule []).map (·.1)
  | c :: rest =>
    match rule (c :: rest) with
    | some (found, _) => some found
    | none => findBy? rule rest

/-- The signature at the front of `s`, where a declaration alone is tried before one behind a keyword. -/
def declarationFirst? : Rule := fun s => (declaration? none s).or (visibleDeclaration? s)

variable {s rest rest' : List Char} {ρ σ : Reading}

theorem findBy?_signature? (s : List Char) : findBy? signature? s = findSignature? s := by
  induction s with
  | nil => rfl
  | cons c s ih =>
      cases hfront : signature? (c :: s) with
      | none => rw [findBy?, findSignature?_cons_of_none hfront, hfront, ih]
      | some found => rw [findBy?, findSignature?_of_signature? hfront, hfront]

/-- At most one of the two ways is there. -/
theorem visible_eq_none_or_declaration_eq_none (s : List Char) :
    visibleDeclaration? s = none ∨ declaration? none s = none := by
  cases hvisible : visibleDeclaration? s with
  | none => exact Or.inl rfl
  | some found => exact Or.inr (declaration?_eq_none_of_visible hvisible)

theorem declarationFirst?_eq : declarationFirst? = signature? := by
  funext s
  rw [declarationFirst?, signature?]
  rcases visible_eq_none_or_declaration_eq_none s with hnone | hnone
  · rw [hnone, Option.or_none, Option.none_or]
  · rw [hnone, Option.or_none, Option.none_or]

/-- **The order of the two ways does not matter** to a search. -/
theorem findBy?_declarationFirst? (s : List Char) :
    findBy? declarationFirst? s = findSignature? s := by
  rw [declarationFirst?_eq, findBy?_signature?]

/-! ## Readings -/

/-- **A text begins with one reading at most.** -/
theorem Reading.Fits.unique (hρ : ρ.Fits s rest) (hσ : σ.Fits s rest') : ρ = σ ∧ rest = rest' := by
  have hsame : σ.signature = ρ.signature := hρ.signature_eq hσ
  obtain ⟨hbody, heading, hhead, rfl⟩ := hρ
  obtain ⟨hbody', heading', hhead', htext⟩ := hσ
  -- both headings end at the first parenthesis that opens, both bodies at the next that closes
  obtain ⟨-, hbehind⟩ := eq_and_eq_of_append_cons_eq hhead.paren_notMem hhead'.paren_notMem htext
  obtain ⟨hbodies, hrest⟩ := eq_and_eq_of_append_cons_eq hbody hbody' hbehind
  obtain ⟨visibility, r, n, body⟩ := ρ
  obtain ⟨visibility', r', n', body'⟩ := σ
  simp only [Reading.signature, Signature.mk.injEq, String.ofList_inj] at hsame hbodies
  obtain ⟨rfl, rfl, rfl, -⟩ := hsame
  subst hbodies
  exact ⟨rfl, hrest⟩

/-! ## Refinement of patterns -/

namespace Pattern

variable {a a' b b' : Pattern}

/-- What `a` comes to, `b` comes to, whatever is missed on the way. -/
def Refines (a b : Pattern) : Prop := ∀ s o m, a.Reads s o m → ∃ m', b.Reads s o m'

theorem Refines.refl (a : Pattern) : a.Refines a := fun _ _ m h => ⟨m, h⟩

theorem Refines.seq (ha : a.Refines a') (hb : b.Refines b') : (a.seq b).Refines (a'.seq b') := by
  intro s o m h
  cases h with
  | seqFail h₁ =>
      obtain ⟨m', h₁'⟩ := ha _ _ _ h₁
      exact ⟨m', .seqFail h₁'⟩
  | seq h₁ h₂ =>
      obtain ⟨m₁, h₁'⟩ := ha _ _ _ h₁
      obtain ⟨m₂, h₂'⟩ := hb _ _ _ h₂
      exact ⟨m₁ ++ m₂, .seq h₁' h₂'⟩

theorem Refines.absent (ha : a.Refines a') : (absent a).Refines (absent a') := by
  intro s o m h
  cases h with
  | present h₁ =>
      obtain ⟨m', h₁'⟩ := ha _ _ _ h₁
      exact ⟨[], .present h₁'⟩
  | absent h₁ =>
      obtain ⟨m', h₁'⟩ := ha _ _ _ h₁
      exact ⟨[], .absent h₁'⟩

theorem Refines.many (ha : a.Refines a') : (many a).Refines (many a') := by
  intro s o m h
  generalize hp : Pattern.many a = p at h
  -- a repetition is read by its two rules only, and each has its counterpart
  induction h with
  | manyEnd h₁ =>
      cases hp
      obtain ⟨m', h₁'⟩ := ha _ _ _ h₁
      exact ⟨m', .manyEnd h₁'⟩
  | manyMore h₁ _ _ ihmore =>
      cases hp
      obtain ⟨m₁, h₁'⟩ := ha _ _ _ h₁
      obtain ⟨m₂, hmore⟩ := ihmore rfl
      exact ⟨m₁ ++ m₂, .manyMore h₁' hmore⟩
  | _ => cases hp

/-- **Two ways that exclude each other** can be tried in either order. -/
theorem refines_choice_comm (h : ∀ s, (∃ m, a.Reads s none m) ∨ ∃ m, b.Reads s none m) :
    (a.choice b).Refines (b.choice a) := by
  intro s o m hread
  cases hread with
  | choiceFirst ha =>
      rcases h s with ⟨m', ha'⟩ | ⟨m', hb⟩
      · exact absurd (ha.unique ha').1 (by simp)
      · exact ⟨m' ++ m, .choiceSecond hb ha⟩
  | @choiceSecond _ _ _ _ m₁ m₂ ha hb =>
      cases o with
      | none => exact ⟨m₂ ++ m₁, .choiceSecond hb ha⟩
      | some r => exact ⟨m₂, .choiceFirst hb⟩

/-! ## The grammar with its ways exchanged -/

/-- A declaration behind a keyword. -/
def visibleDeclaration : Pattern := visibility.seq (blanks.seq declaration)

/-- A declaration alone, or else behind a keyword. -/
def declarationFirst : Pattern := declaration.choice visibleDeclaration

/-- The first place of a text where a pattern is there, and all that stands around it. -/
def searchFor (a : Pattern) : Pattern := (many ((absent a).seq anyChar)).seq (a.seq (many anyChar))

theorem search_eq : search = searchFor signature := rfl

theorem Refines.searchFor (ha : a.Refines a') : (searchFor a).Refines (searchFor a') :=
  (ha.absent.seq (.refl anyChar)).many.seq (ha.seq (.refl _))

/-- Of the two ways one fails. -/
theorem exists_reads_none (s : List Char) :
    (∃ m, visibleDeclaration.Reads s none m) ∨ ∃ m, declaration.Reads s none m := by
  have hvisible := reads_visibleDeclaration s
  have hdeclaration := reads_declaration none s
  rcases visible_eq_none_or_declaration_eq_none s with hnone | hnone
  · rw [hnone] at hvisible
    exact Or.inl ⟨_, hvisible⟩
  · rw [hnone] at hdeclaration
    exact Or.inr ⟨_, hdeclaration⟩

/-- The search with the ways exchanged comes to the same as the search of the grammar. -/
theorem exists_reads_searchFor_declarationFirst_iff {o : Option (List Char)} :
    (∃ m, (searchFor declarationFirst).Reads s o m) ↔ ∃ m, search.Reads s o m := by
  have hto : declarationFirst.Refines signature :=
    refines_choice_comm fun s => (exists_reads_none s).symm
  have hfrom : signature.Refines declarationFirst := refines_choice_comm exists_reads_none
  rw [search_eq]
  constructor
  · rintro ⟨m, h⟩
    exact hto.searchFor _ _ _ h
  · rintro ⟨m, h⟩
    exact hfrom.searchFor _ _ _ h

end Pattern

/-- **The choice of a signature is unambiguous.** At no position of a text is there both a declaration
    behind a keyword and a declaration alone. So trying them in the opposite order accepts the same texts
    with the same signatures, and the grammar with the two exchanged takes the same texts. No position has
    two readings; in particular a keyword is never both the visibility and the return type. -/
theorem signature_unambiguous :
    (∀ (s : List Char) (i : Nat),
        visibleDeclaration? (s.drop i) = none ∨ declaration? none (s.drop i) = none) ∧
      (∀ (s : String) (d : Signature),
        Signature.parse s = .ok d ↔ findBy? declarationFirst? s.toList = some d) ∧
      (∀ s o, (∃ m, (Pattern.searchFor Pattern.declarationFirst).Reads s o m) ↔
        ∃ m, Pattern.search.Reads s o m) ∧
      ∀ (s : List Char) (i : Nat) (ρ σ : Reading), ρ.FitsAt s i → σ.FitsAt s i → ρ = σ := by
  refine ⟨?_, ?_, ?_, ?_⟩
  · intro s i
    exact visible_eq_none_or_declaration_eq_none (s.drop i)
  · intro s d
    rw [parse_eq_ok_iff, findBy?_declarationFirst?]
  · intro s o
    exact Pattern.exists_reads_searchFor_declarationFirst_iff
  · rintro s i ρ σ ⟨rest, hρ⟩ ⟨rest', hσ⟩
    exact (hρ.unique hσ).1

/-- The first `public` is the visibility, and therefore not the return type. -/
theorem signature_unambiguous_public :
    Reading.FitsAt ⟨some .pub, "public".toList, "f".toList, "int x".toList⟩
        "(public public f(int x)".toList 1 ∧
      ¬ Reading.FitsAt ⟨none, "public".toList, "public".toList, "int x".toList⟩
        "(public public f(int x)".toList 1 := by
  have hvisible : Reading.FitsAt ⟨some .pub, "public".toList, "f".toList, "int x".toList⟩
      "(public public f(int x)".toList 1 :=
    Reading.fitsAt_iff.mpr ⟨by decide, ['('], "public public f".toList, [],
      ⟨by decide, by decide, "public ".toList, [' '], ⟨[' '], by decide, rfl⟩, by decide, rfl⟩, rfl, rfl⟩
  refine ⟨hvisible, fun hplain => ?_⟩
  have hsame := signature_unambiguous.2.2.2 _ 1 _ _ hvisible hplain
  exact absurd (congrArg Reading.visibility hsame) (by decide)

end MethodSig
