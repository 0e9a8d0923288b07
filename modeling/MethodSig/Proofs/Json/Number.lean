import MethodSig.Proofs.Json.Document

/-!
# `Proofs.Json.Number` — where a number ends

A number is read as far as it goes, so a text of a number is read whole exactly where what follows does
not go on with it (`IsNumber.number?_append`), and what is read is always the text of a number
(`exists_isNumber_of_number?`). The parts are read one after the other; each has a lemma for either
direction.
-/

namespace MethodSig.Json

variable {s t ds rest : List Char}

/-- Characters that a number may go on with. -/
def goesOn (c : Char) : Bool := c.isDigit || c == '.' || c == 'e' || c == 'E'

theorem isDigit_false_of_goesOn (h : Stops goesOn s) : Stops Char.isDigit s := by
  intro c hc
  have hgoes := h c hc
  simp only [goesOn, Bool.or_eq_false_iff] at hgoes
  exact hgoes.1.1.1

/-! ## Parts -/

theorem digits?_eq_some_iff :
    digits? s = some (ds, rest) ↔ IsDigits ds ∧ Stops Char.isDigit rest ∧ s = ds ++ rest :=
  run?_eq_some_iff_append

theorem whole?_eq_some_iff :
    whole? s = some (ds, rest) ↔ IsWhole ds ∧ Stops Char.isDigit rest ∧ s = ds ++ rest := by
  constructor
  · intro h
    unfold whole? at h
    split at h
    · cases h
    · rename_i hlong
      obtain ⟨hds, hstop, rfl⟩ := digits?_eq_some_iff.mp h
      refine ⟨?_, hstop, rfl⟩
      by_cases hzero : ds.head? = some '0'
      · obtain ⟨tail, rfl⟩ := List.head?_eq_some_iff.mp hzero
        cases tail with
        | nil => exact .zero
        | cons d tail => exact absurd h (hlong d tail rest)
      · exact .digits hds hzero
  · rintro ⟨hds, hstop, rfl⟩
    cases hds with
    | zero =>
        have hdigits : digits? (['0'] ++ rest) = some (['0'], rest) :=
          digits?_eq_some_iff.mpr ⟨by decide, hstop, rfl⟩
        rw [whole?, hdigits]
        rfl
    | digits hds hzero =>
        have hdigits : digits? (ds ++ rest) = some (ds, rest) :=
          digits?_eq_some_iff.mpr ⟨hds, hstop, rfl⟩
        rw [whole?, hdigits]
        split
        · rename_i heq
          cases heq
          exact absurd rfl hzero
        · rfl

theorem IsWhole.isDigits (h : IsWhole ds) : IsDigits ds := by
  cases h with
  | zero => decide
  | digits h _ => exact h

/-- A whole part begins with a digit. -/
theorem IsWhole.stops_append {p : Char → Bool} (h : IsWhole ds)
    (hp : ∀ c, c.isDigit = true → p c = false) : Stops p (ds ++ rest) :=
  h.isDigits.stops_append hp

theorem exists_isFraction_of_fraction? {fraction : Option (List Char)}
    (h : fraction? s = some (fraction, rest)) : ∃ t, IsFraction t ∧ s = t ++ rest := by
  unfold fraction? at h
  split at h
  · obtain ⟨⟨ds, r⟩, hds, hr⟩ := Option.map_eq_some_iff.mp h
    cases hr
    obtain ⟨hdigits, -, rfl⟩ := digits?_eq_some_iff.mp hds
    exact ⟨_, .present hdigits, rfl⟩
  · cases h
    exact ⟨[], .absent, rfl⟩

theorem IsFraction.fraction?_append (h : IsFraction t) (hdigit : Stops Char.isDigit rest)
    (hpoint : Stops (· == '.') rest) : ∃ fraction, fraction? (t ++ rest) = some (fraction, rest) := by
  cases h with
  | absent =>
      refine ⟨none, ?_⟩
      rw [List.nil_append]
      unfold fraction?
      split
      · exact absurd (stops_cons.mp hpoint) (by simp)
      · rfl
  | @present ds hds =>
      have hdigits : digits? (ds ++ rest) = some (ds, rest) :=
        digits?_eq_some_iff.mpr ⟨hds, hdigit, rfl⟩
      exact ⟨some ds, by rw [List.cons_append, fraction?, hdigits]; rfl⟩

theorem exponentSign_eq (s : List Char) :
    ∃ sign, (sign = [] ∨ sign = ['+'] ∨ sign = ['-']) ∧ s = sign ++ (exponentSign s).2 := by
  unfold exponentSign
  split
  · exact ⟨['+'], by simp, rfl⟩
  · exact ⟨['-'], by simp, rfl⟩
  · exact ⟨[], by simp, rfl⟩

theorem exponentSign_append {sign : List Char} (hsign : sign = [] ∨ sign = ['+'] ∨ sign = ['-'])
    (hs : Stops (fun c => c == '+' || c == '-') s) : (exponentSign (sign ++ s)).2 = s := by
  rcases hsign with rfl | rfl | rfl
  · rw [List.nil_append]
    unfold exponentSign
    split
    · exact absurd (stops_cons.mp hs) (by simp)
    · exact absurd (stops_cons.mp hs) (by simp)
    · rfl
  · rfl
  · rfl

theorem exponent?_cons {e : Char} (he : e = 'e' ∨ e = 'E') (s : List Char) :
    exponent? (e :: s) =
      (digits? (exponentSign s).2).map fun r => (some ((exponentSign s).1, r.1), r.2) := by
  rw [exponent?, if_pos he]

theorem exists_isExponent_of_exponent? {exponent : Option (Bool × List Char)}
    (h : exponent? s = some (exponent, rest)) : ∃ t, IsExponent t ∧ s = t ++ rest := by
  cases s with
  | nil =>
      cases h
      exact ⟨[], .absent, rfl⟩
  | cons e s =>
      by_cases he : e = 'e' ∨ e = 'E'
      · rw [exponent?_cons he] at h
        obtain ⟨⟨ds, r⟩, hds, heq⟩ := Option.map_eq_some_iff.mp h
        obtain ⟨sign, hsign, hs⟩ := exponentSign_eq s
        obtain ⟨hdigits, -, hr⟩ := digits?_eq_some_iff.mp hds
        cases heq
        refine ⟨e :: (sign ++ ds), .present he hsign hdigits, ?_⟩
        rw [List.cons_append, List.append_assoc, ← hr, ← hs]
      · rw [exponent?, if_neg he] at h
        cases h
        exact ⟨[], .absent, rfl⟩

theorem IsExponent.exponent?_append (h : IsExponent t) (hrest : Stops goesOn rest) :
    ∃ exponent, exponent? (t ++ rest) = some (exponent, rest) := by
  cases h with
  | absent =>
      cases rest with
      | nil => exact ⟨none, rfl⟩
      | cons c rest =>
          have hc : ¬ (c = 'e' ∨ c = 'E') := by
            rintro (rfl | rfl) <;> exact absurd (stops_cons.mp hrest) (by decide)
          exact ⟨none, by rw [List.nil_append, exponent?, if_neg hc]⟩
  | @present e sign ds he hsign hds =>
      have hstop : Stops (fun c => c == '+' || c == '-') (ds ++ rest) := by
        refine hds.stops_append fun c hc => ?_
        rw [Bool.or_eq_false_iff, beq_eq_false_iff_ne, beq_eq_false_iff_ne]
        constructor <;> (rintro rfl; exact absurd hc (by decide))
      have hdigits : digits? (exponentSign (sign ++ (ds ++ rest))).2 = some (ds, rest) := by
        rw [exponentSign_append hsign hstop]
        exact digits?_eq_some_iff.mpr ⟨hds, isDigit_false_of_goesOn hrest, rfl⟩
      refine ⟨some ((exponentSign (sign ++ (ds ++ rest))).1, ds), ?_⟩
      rw [List.cons_append, List.append_assoc, exponent?_cons he, hdigits, Option.map_some]

theorem numberSign_eq (s : List Char) :
    ∃ sign, (sign = [] ∨ sign = ['-']) ∧ s = sign ++ (numberSign s).2 := by
  unfold numberSign
  split
  · exact ⟨['-'], by simp, rfl⟩
  · exact ⟨[], by simp, rfl⟩

theorem numberSign_append {sign : List Char} (hsign : sign = [] ∨ sign = ['-'])
    (hs : Stops (· == '-') s) : (numberSign (sign ++ s)).2 = s := by
  rcases hsign with rfl | rfl
  · rw [List.nil_append]
    unfold numberSign
    split
    · exact absurd (stops_cons.mp hs) (by simp)
    · rfl
  · rfl

/-! ## Numbers -/

/-- No character of a number is a backslash. -/
theorem IsNumber.backslash_notMem (h : IsNumber t) : '\\' ∉ t := by
  have hdigits : ∀ {ds : List Char}, IsDigits ds → '\\' ∉ ds :=
    fun h hmem => absurd (h.all _ hmem) (by decide)
  obtain ⟨hsign, hwhole, hfraction, hexponent⟩ := h
  simp only [List.mem_append, not_or]
  refine ⟨?_, ?_, ?_, ?_⟩
  · rcases hsign with rfl | rfl <;> decide
  · exact hdigits hwhole.isDigits
  · cases hfraction with
    | absent => exact List.not_mem_nil
    | present h => exact List.not_mem_cons_of_ne_of_not_mem (by decide) (hdigits h)
  · cases hexponent with
    | absent => exact List.not_mem_nil
    | present he hsign h =>
        rw [List.mem_cons, List.mem_append, not_or, not_or]
        refine ⟨?_, ?_, hdigits h⟩
        · rcases he with rfl | rfl <;> decide
        · rcases hsign with rfl | rfl | rfl <;> decide

theorem number?_eq_some_iff {l : NumberLiteral} :
    number? s = some (l, rest) ↔ ∃ s₁ s₂, whole? (numberSign s).2 = some (l.whole, s₁) ∧
      fraction? s₁ = some (l.fraction, s₂) ∧ exponent? s₂ = some (l.exponent, rest) ∧
      l.negative = (numberSign s).1 := by
  simp only [number?, Option.bind_eq_bind, Option.bind_eq_some_iff, Option.pure_def,
    Option.some.injEq, Prod.mk.injEq, Prod.exists]
  constructor
  · rintro ⟨w, s₁, hw, f, s₂, hf, e, s₃, he, rfl, rfl⟩
    exact ⟨s₁, s₂, hw, hf, he, rfl⟩
  · rintro ⟨s₁, s₂, hw, hf, he, hn⟩
    exact ⟨_, s₁, hw, _, s₂, hf, _, rest, he, by rw [← hn], rfl⟩

/-- **What is read as a number is the text of one.** -/
theorem exists_isNumber_of_number? {l : NumberLiteral} (h : number? s = some (l, rest)) :
    ∃ t, IsNumber t ∧ s = t ++ rest := by
  obtain ⟨s₁, s₂, hwhole, hfraction, hexponent, -⟩ := number?_eq_some_iff.mp h
  obtain ⟨sign, hsign, hs⟩ := numberSign_eq s
  obtain ⟨hw, -, hs₁⟩ := whole?_eq_some_iff.mp hwhole
  obtain ⟨f, hf, rfl⟩ := exists_isFraction_of_fraction? hfraction
  obtain ⟨e, he, rfl⟩ := exists_isExponent_of_exponent? hexponent
  refine ⟨_, .mk hsign hw hf he, ?_⟩
  rw [hs, hs₁]
  simp

/-- **The text of a number is read whole** where what follows does not go on with it. -/
theorem IsNumber.number?_append (h : IsNumber t) (hrest : Stops goesOn rest) :
    ∃ l, number? (t ++ rest) = some (l, rest) := by
  obtain ⟨hsign, hwhole, hfraction, hexponent⟩ := h
  rename_i sign w f e
  -- behind each part comes a character that the part cannot go on with
  have hexponentStops : ∀ p : Char → Bool, p 'e' = false → p 'E' = false → Stops p rest →
      Stops p (e ++ rest) := by
    intro p he hE hp
    cases hexponent with
    | absent => exact hp
    | present hletter _ _ =>
        rw [List.cons_append, stops_cons]
        rcases hletter with rfl | rfl
        · exact he
        · exact hE
  have hdigitRest : Stops Char.isDigit rest := isDigit_false_of_goesOn hrest
  have hpointRest : Stops (· == '.') rest := by
    intro c hc
    have hgoes := hrest c hc
    simp only [goesOn, Bool.or_eq_false_iff] at hgoes
    exact hgoes.1.1.2
  have hdigit : Stops Char.isDigit (e ++ rest) := hexponentStops _ (by decide) (by decide) hdigitRest
  have hpoint : Stops (· == '.') (e ++ rest) := hexponentStops _ (by decide) (by decide) hpointRest
  have hdigit' : Stops Char.isDigit (f ++ (e ++ rest)) := by
    cases hfraction with
    | absent => exact hdigit
    | present _ => exact stops_cons.mpr (by decide)
  have hminus : Stops (· == '-') (w ++ (f ++ (e ++ rest))) := by
    refine hwhole.stops_append fun c hc => ?_
    rw [beq_eq_false_iff_ne]
    rintro rfl
    exact absurd hc (by decide)
  obtain ⟨fraction, hf⟩ := hfraction.fraction?_append hdigit hpoint
  obtain ⟨exponent, he⟩ := hexponent.exponent?_append hrest
  have hw := whole?_eq_some_iff.mpr ⟨hwhole, hdigit', rfl⟩
  have htext : sign ++ (w ++ (f ++ e)) ++ rest = sign ++ (w ++ (f ++ (e ++ rest))) := by simp
  refine ⟨⟨(numberSign (sign ++ (w ++ (f ++ (e ++ rest))))).1, w, fraction, exponent⟩, ?_⟩
  rw [htext]
  refine number?_eq_some_iff.mpr ⟨f ++ (e ++ rest), e ++ rest, ?_, hf, he, rfl⟩
  rw [numberSign_append hsign hminus]
  exact hw

end MethodSig.Json
