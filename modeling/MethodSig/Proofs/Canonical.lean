import MethodSig.Proofs.Leftmost

/-!
# `Proofs.Canonical` — the canonical text and parsing

A signature can be built from any strings. It is *well formed* if its types and names are words, which
is what a text can declare; a word may well be a keyword. Parsing gives well-formed signatures only
(`findSignature?_wellFormed`), and the canonical text of a signature is parsed as that signature exactly
if it is well formed (`Signature.WellFormed.findSignature?_canonical`).

The canonical text is itself a reading, with one blank between words; what has to be shown of it is that
the parameters are read back from `type name, type name`, however many there are
(`paramsIn_paramsText`).
-/

namespace MethodSig

variable {d : Signature}

/-! ## Parameters in canonical form -/

/-- The parameters as they stand in the canonical text. -/
def paramsText (params : List Param) : List Char :=
  (", ".intercalate (params.map Param.text)).toList

@[simp] theorem paramsText_nil : paramsText [] = [] := by
  simp [paramsText]

@[simp] theorem paramsText_singleton (p : Param) : paramsText [p] = p.text.toList := by
  simp [paramsText]

@[simp] theorem paramsText_cons_cons (p q : Param) (params : List Param) :
    paramsText (p :: q :: params) = p.text.toList ++ ',' :: ' ' :: paramsText (q :: params) := by
  simp [paramsText, String.intercalate_cons_cons]

namespace Param

theorem toList_text (p : Param) : p.text.toList = p.type.toList ++ ' ' :: p.name.toList := by
  simp [text]

variable {p : Param}

/-- A well-formed parameter is read back. -/
theorem WellFormed.paramsIn_text (h : p.WellFormed) : paramsIn p.text.toList = [p] := by
  have hblank : IsBlanks [' '] := by decide
  have hpair : pair? p.text.toList = some ((p.type.toList, p.name.toList), []) :=
    pair?_eq_some_iff.mpr ⟨h.type, h.name, stops_nil, [' '], hblank, by simp [toList_text]⟩
  rw [paramsIn, paramsUntil_of_pair? _ hpair]
  simp [ofPair]

theorem WellFormed.closing_notMem (h : p.WellFormed) : ')' ∉ p.text.toList := by
  rw [toList_text, List.mem_append, List.mem_cons]
  rintro (hmem | heq | hmem)
  · exact absurd (h.type.all ')' hmem) (by decide)
  · exact absurd heq (by decide)
  · exact absurd (h.name.all ')' hmem) (by decide)

end Param

/-- **Well-formed parameters are read back**, in their order. -/
theorem paramsIn_paramsText {params : List Param} (h : ∀ p ∈ params, p.WellFormed) :
    paramsIn (paramsText params) = params := by
  induction params with
  | nil => simp [paramsIn]
  | cons p params ih =>
      have hp : paramsIn p.text.toList = [p] := (h p List.mem_cons_self).paramsIn_text
      cases params with
      | nil => rw [paramsText_singleton, hp]
      | cons q params =>
          have hrest : paramsIn (paramsText (q :: params)) = q :: params :=
            ih fun x hx => h x (List.mem_cons_of_mem p hx)
          rw [paramsText_cons_cons, paramsIn_append_cons (by decide), hp,
            paramsIn_cons_of_not_word (by decide), hrest]
          rfl

theorem closing_notMem_paramsText {params : List Param} (h : ∀ p ∈ params, p.WellFormed) :
    ')' ∉ paramsText params := by
  induction params with
  | nil => simp
  | cons p params ih =>
      have hp : ')' ∉ p.text.toList := (h p List.mem_cons_self).closing_notMem
      cases params with
      | nil => rwa [paramsText_singleton]
      | cons q params =>
          have hrest : ')' ∉ paramsText (q :: params) :=
            ih fun x hx => h x (List.mem_cons_of_mem p hx)
          rw [paramsText_cons_cons]
          simp [hp, hrest]

/-! ## Signatures in canonical form -/

namespace Signature

/-- A signature as a text can declare it: types and names are words. -/
structure WellFormed (d : Signature) : Prop where
  /-- The return type is a word. -/
  returnType : IsWord d.returnType.toList
  /-- The name is a word. -/
  name : IsWord d.name.toList
  /-- Every parameter is well formed. -/
  params : ∀ p ∈ d.params, p.WellFormed

theorem isLead_visibilityText (visibility : Option Visibility) :
    IsLead visibility (visibilityText visibility).toList := by
  cases visibility with
  | none => exact String.toList_empty
  | some v => exact ⟨[' '], by decide, by simp [visibilityText]⟩

/-- The reading that the canonical text is. -/
def reading (d : Signature) : Reading :=
  ⟨d.visibility, d.returnType.toList, d.name.toList, paramsText d.params⟩

/-- **The canonical text of a well-formed signature is a reading of it.** -/
theorem WellFormed.fits_canonical (h : d.WellFormed) :
    d.reading.Fits d.canonical.toList [] ∧ d.reading.signature = d := by
  refine ⟨⟨closing_notMem_paramsText h.params, _, ⟨h.returnType, h.name, _, [' '],
    isLead_visibilityText d.visibility, by decide, rfl⟩, ?_⟩, ?_⟩
  · simp [canonical, reading, paramsText]
  · simp [reading, Reading.signature, paramsIn_paramsText h.params]

end Signature

/-- Every reading says something well formed. -/
theorem Reading.Fits.wellFormed {ρ : Reading} {s rest : List Char} (h : ρ.Fits s rest) :
    ρ.signature.WellFormed := by
  obtain ⟨-, _, ⟨hr, hn, -⟩, -⟩ := h
  refine ⟨?_, ?_, wellFormed_of_mem_paramsUntil _ _⟩
  · rwa [Reading.signature, String.toList_ofList]
  · rwa [Reading.signature, String.toList_ofList]

theorem findSignature?_wellFormed {s : List Char} (h : findSignature? s = some d) : d.WellFormed := by
  obtain ⟨i, ρ, hρ, rfl⟩ := findSignature?_eq_some_iff_leftmost.mp h
  obtain ⟨rest, hfits⟩ := hρ.fits
  exact hfits.wellFormed

/-- The canonical text of a well-formed signature is parsed as that signature. -/
theorem Signature.WellFormed.findSignature?_canonical (h : d.WellFormed) :
    findSignature? d.canonical.toList = some d := by
  obtain ⟨hfits, hsignature⟩ := h.fits_canonical
  exact findSignature?_of_signature? (signature?_eq_some_iff.mpr ⟨d.reading, hfits, hsignature⟩)

/-- **Parsing and the canonical text.** Whatever is parsed is well formed; a signature is parsed from its
    canonical text exactly if it is well formed; so the canonical text of what was parsed gives the same
    signature again, and is its own canonical text. -/
theorem parse_canonical :
    (∀ s d, Signature.parse s = .ok d → d.WellFormed) ∧
      (∀ d : Signature, Signature.parse d.canonical = .ok d ↔ d.WellFormed) ∧
      ∀ s d, Signature.parse s = .ok d → Signature.parse d.canonical = .ok d ∧
        (Signature.parse d.canonical).map Signature.canonical = .ok d.canonical := by
  have hwell : ∀ s d, Signature.parse s = .ok d → d.WellFormed :=
    fun s d h => findSignature?_wellFormed (parse_eq_ok_iff.mp h)
  have hback : ∀ d : Signature, d.WellFormed → Signature.parse d.canonical = .ok d :=
    fun d h => parse_eq_ok_iff.mpr h.findSignature?_canonical
  refine ⟨hwell, fun d => ⟨hwell _ d, hback d⟩, fun s d h => ?_⟩
  have hcanonical : Signature.parse d.canonical = .ok d := hback d (hwell s d h)
  exact ⟨hcanonical, by rw [hcanonical]; rfl⟩

theorem parse_canonical_keywords :
    Signature.parse "xpublic public  public(, public a b)" =
        .ok ⟨some .pub, "public", "public", [⟨"public", "a"⟩]⟩ ∧
      Signature.WellFormed ⟨some .pub, "public", "public", [⟨"public", "a"⟩]⟩ ∧
      Signature.parse (Signature.canonical ⟨some .pub, "public", "public", [⟨"public", "a"⟩]⟩) =
        .ok ⟨some .pub, "public", "public", [⟨"public", "a"⟩]⟩ := by
  have hparse : Signature.parse "xpublic public  public(, public a b)" =
      .ok ⟨some .pub, "public", "public", [⟨"public", "a"⟩]⟩ := parse_eq_ok_iff.mpr (by decide +kernel)
  exact ⟨hparse, parse_canonical.1 _ _ hparse, (parse_canonical.2.2 _ _ hparse).1⟩

end MethodSig
