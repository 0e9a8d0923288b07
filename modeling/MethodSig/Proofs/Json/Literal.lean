import MethodSig.Proofs.Json.Document

/-!
# `Proofs.Json.Literal` — string literals

Reading a literal gives the characters that its text writes (`WritesChars.literal?_append`), and where a
literal is read whose surrogates are paired, its text writes some characters
(`SurrogatesPaired.exists_writesChars`). The characters are reached one at a time: the text of one in
front of a literal adds it to the characters of the literal (`WritesChar.literal?_append`).
-/

namespace MethodSig.Json

variable {c l : Char} {cs t s rest : List Char} {us : List LiteralUnit} {n m : Nat}

/-! ## Escapes -/

theorem letterEscape?_eq_some_iff : letterEscape? l = some c ↔ (l, c) ∈ letterEscapes := by
  unfold letterEscape? letterEscapes
  simp only [List.mem_cons, Prod.mk.injEq, List.not_mem_nil, or_false]
  split
  · rename_i h
    rcases h with rfl | rfl | rfl <;> simp [eq_comm]
  · repeat' split
    all_goals simp_all [eq_comm]

theorem hexValue?_lt {x : Nat} (h : hexValue? c = some x) : x < 16 := by
  have hle : ∀ d : Char, c ≤ d → c.toNat ≤ d.toNat := fun d hd => hd
  unfold hexValue? at h
  split at h
  · rename_i hc
    have := hle _ hc.2
    simp at h this
    omega
  · split at h
    · rename_i hc
      have := hle _ hc.2
      simp at h this
      omega
    · split at h
      · rename_i hc
        have := hle _ hc.2
        simp at h this
        omega
      · cases h

/-- What a code unit is read from. -/
theorem code?_eq_some_iff :
    code? s = some (n, rest) ↔ ∃ a b c d w x y z, s = a :: b :: c :: d :: rest ∧
      hexValue? a = some w ∧ hexValue? b = some x ∧ hexValue? c = some y ∧ hexValue? d = some z ∧
      n = ((w * 16 + x) * 16 + y) * 16 + z := by
  constructor
  · intro h
    unfold code? at h
    split at h
    · simp only [Option.bind_eq_bind, Option.bind_eq_some_iff, Option.pure_def, Option.some.injEq,
        Prod.mk.injEq] at h
      obtain ⟨w, hw, x, hx, y, hy, z, hz, rfl, rfl⟩ := h
      exact ⟨_, _, _, _, w, x, y, z, rfl, hw, hx, hy, hz, rfl⟩
    · cases h
  · rintro ⟨a, b, c, d, w, x, y, z, rfl, hw, hx, hy, hz, rfl⟩
    simp [code?, hw, hx, hy, hz]

/-- Four digits are read whatever follows them. -/
theorem code?_eq_some_iff_append :
    code? s = some (n, rest) ↔ ∃ ds, code? ds = some (n, []) ∧ s = ds ++ rest := by
  constructor
  · intro h
    obtain ⟨a, b, c, d, w, x, y, z, rfl, hdigits⟩ := code?_eq_some_iff.mp h
    exact ⟨[a, b, c, d], code?_eq_some_iff.mpr ⟨a, b, c, d, w, x, y, z, rfl, hdigits⟩, rfl⟩
  · rintro ⟨ds, h, rfl⟩
    obtain ⟨a, b, c, d, w, x, y, z, rfl, hdigits⟩ := code?_eq_some_iff.mp h
    exact code?_eq_some_iff.mpr ⟨a, b, c, d, w, x, y, z, rfl, hdigits⟩

theorem lt_of_code? (h : code? s = some (n, rest)) : n < 0x10000 := by
  obtain ⟨a, b, c, d, w, x, y, z, -, hw, hx, hy, hz, rfl⟩ := code?_eq_some_iff.mp h
  have hw' := hexValue?_lt hw
  have hx' := hexValue?_lt hx
  have hy' := hexValue?_lt hy
  have hz' := hexValue?_lt hz
  omega

/-! ## Surrogates -/

/-- A character is no surrogate. -/
theorem not_surrogate_toNat (c : Char) :
    isHighSurrogate c.toNat = false ∧ isLowSurrogate c.toNat = false := by
  have hvalid : c.toNat < 0xD800 ∨ 0xDFFF < c.toNat ∧ c.toNat < 0x110000 := c.valid
  simp only [isHighSurrogate, isLowSurrogate, Bool.and_eq_false_iff, decide_eq_false_iff_not]
  omega

/-- A code unit that is no surrogate is a character. -/
theorem toNat_ofNat_of_code? (h : code? s = some (n, rest)) (hhigh : isHighSurrogate n = false)
    (hlow : isLowSurrogate n = false) : (Char.ofNat n).toNat = n := by
  have hlt := lt_of_code? h
  simp only [isHighSurrogate, isLowSurrogate, Bool.and_eq_false_iff, decide_eq_false_iff_not]
    at hhigh hlow
  have hvalid : n.isValidChar := by
    unfold Nat.isValidChar
    omega
  rw [Char.ofNat, dif_pos hvalid]
  rfl

/-- Two surrogates are a character. -/
theorem toNat_ofSurrogates (hhigh : isHighSurrogate m = true) (hlow : isLowSurrogate n = true) :
    (ofSurrogates m n).toNat = 0x10000 + (m - 0xD800) * 0x400 + (n - 0xDC00) := by
  simp only [isHighSurrogate, isLowSurrogate, Bool.and_eq_true, decide_eq_true_eq] at hhigh hlow
  have hvalid : (0x10000 + (m - 0xD800) * 0x400 + (n - 0xDC00)).isValidChar := by
    unfold Nat.isValidChar
    omega
  rw [ofSurrogates, Char.ofNat, dif_pos hvalid]
  rfl

/-! ## Units -/

/-- **What a unit is read from.** -/
theorem unit?_eq_some_iff {u : LiteralUnit} :
    unit? s = some (u, rest) ↔
      (∃ c, u = .char c ∧ s = c :: rest ∧ 0x20 ≤ c.toNat ∧ c ≠ '\\') ∨
        (∃ c l, u = .char c ∧ s = '\\' :: l :: rest ∧ (l, c) ∈ letterEscapes) ∨
        ∃ n t, u = .code n ∧ s = '\\' :: 'u' :: t ∧ code? t = some (n, rest) := by
  constructor
  · intro h
    cases s with
    | nil => cases h
    | cons c s =>
        rw [unit?] at h
        split at h
        · rename_i hc
          subst hc
          cases s with
          | nil => cases h
          | cons l s =>
              rw [escape?] at h
              split at h
              · rename_i hl
                subst hl
                obtain ⟨⟨n, r⟩, hn, hr⟩ := Option.map_eq_some_iff.mp h
                cases hr
                exact Or.inr (Or.inr ⟨n, s, rfl, rfl, hn⟩)
              · obtain ⟨c, hc, hr⟩ := Option.map_eq_some_iff.mp h
                cases hr
                exact Or.inr (Or.inl ⟨c, l, rfl, rfl, letterEscape?_eq_some_iff.mp hc⟩)
        · rename_i hbackslash
          split at h
          · cases h
          · rename_i hcontrol
            cases h
            exact Or.inl ⟨c, rfl, rfl, Nat.not_lt.mp hcontrol, hbackslash⟩
  · rintro (⟨c, rfl, rfl, hcontrol, hbackslash⟩ | ⟨c, l, rfl, rfl, hl⟩ | ⟨n, t, rfl, rfl, hn⟩)
    · rw [unit?, if_neg hbackslash, if_neg (Nat.not_lt.mpr hcontrol)]
    · have hu : l ≠ 'u' := by
        rintro rfl
        exact absurd (letterEscape?_eq_some_iff.mpr hl) (by simp [letterEscape?])
      rw [unit?, if_pos rfl, escape?, if_neg hu, letterEscape?_eq_some_iff.mpr hl]
      rfl
    · rw [unit?, if_pos rfl, escape?, if_pos rfl, hn]
      rfl

/-- A code unit is read from its escape, whatever follows. -/
theorem unit?_code {ds : List Char} (h : code? ds = some (n, [])) (s : List Char) :
    unit? ('\\' :: 'u' :: (ds ++ s)) = some (.code n, s) :=
  unit?_eq_some_iff.mpr (Or.inr (Or.inr
    ⟨n, ds ++ s, rfl, rfl, code?_eq_some_iff_append.mpr ⟨ds, h, rfl⟩⟩))

/-- A literal that does not end at once begins with a unit. -/
theorem exists_unit?_of_units? (hquote : s.head? ≠ some '"') (h : units? s = some (us, rest)) :
    ∃ u s' us', unit? s = some (u, s') ∧ units? s' = some (us', rest) ∧ us = u :: us' := by
  cases hu : unit? s with
  | none =>
      cases s with
      | nil => simp at h
      | cons c s =>
          have hc : c ≠ '"' := fun e => hquote (by rw [e]; rfl)
          rw [units?, if_neg hc] at h
          split at h
          · cases h
          · rename_i hu'
            rw [hu] at hu'
            cases hu'
  | some r =>
      obtain ⟨u, s'⟩ := r
      rw [units?_of_unit? hquote hu] at h
      obtain ⟨⟨us', rest'⟩, hus', heq⟩ := Option.map_eq_some_iff.mp h
      cases heq
      exact ⟨u, s', us', rfl, hus', rfl⟩

theorem literal?_eq_some_iff :
    literal? s = some (cs, rest) ↔ ∃ us, units? s = some (us, rest) ∧ meaning? us = some cs := by
  simp only [literal?, Option.bind_eq_bind, Option.bind_eq_some_iff, Option.pure_def,
    Option.some.injEq, Prod.mk.injEq, Prod.exists]
  constructor
  · rintro ⟨us, _, hus, _, hcs, rfl, rfl⟩
    exact ⟨us, hus, hcs⟩
  · rintro ⟨us, hus, hcs⟩
    exact ⟨us, rest, hus, cs, hcs, rfl, rfl⟩

/-! ## Meaning -/

@[simp] theorem meaning?_char : meaning? (.char c :: us) = (meaning? us).map (c :: ·) := rfl

theorem meaning?_code (hhigh : isHighSurrogate n = false) (hlow : isLowSurrogate n = false) :
    meaning? (.code n :: us) = (meaning? us).map (Char.ofNat n :: ·) := by
  rw [meaning?.eq_def]
  simp [hhigh, hlow]

theorem meaning?_pair (hhigh : isHighSurrogate m = true) (hlow : isLowSurrogate n = true) :
    meaning? (.code m :: .code n :: us) = (meaning? us).map (ofSurrogates m n :: ·) := by
  rw [meaning?]
  simp [hhigh, hlow]

/-! ## From characters to their text -/

/-- Units that mean a character add it to the literal behind. -/
theorem literal?_of_units? (front : List LiteralUnit)
    (hunits : units? s = (units? rest).map fun r => (front ++ r.1, r.2))
    (hmeaning : ∀ us, meaning? (front ++ us) = (meaning? us).map (c :: ·)) :
    literal? s = (literal? rest).map fun r => (c :: r.1, r.2) := by
  rw [literal?, literal?, hunits]
  cases units? rest with
  | none => rfl
  | some r =>
      simp only [Option.map_some, Option.bind_eq_bind, Option.bind_some, hmeaning]
      cases meaning? r.1 <;> rfl

/-- **The text of a character adds it to the literal behind.** -/
theorem WritesChar.literal?_append (h : WritesChar c t) (s : List Char) :
    literal? (t ++ s) = (literal? s).map fun r => (c :: r.1, r.2) := by
  cases h with
  | plain hcontrol hquote hbackslash =>
      have hunit : unit? (c :: s) = some (.char c, s) :=
        unit?_eq_some_iff.mpr (Or.inl ⟨c, rfl, rfl, hcontrol, hbackslash⟩)
      exact literal?_of_units? [.char c] (units?_of_unit? (by simpa using hquote) hunit)
        fun _ => meaning?_char
  | @letter l hl =>
      have hunit : unit? ('\\' :: l :: s) = some (.char c, s) :=
        unit?_eq_some_iff.mpr (Or.inr (Or.inl ⟨c, l, rfl, rfl, hl⟩))
      exact literal?_of_units? [.char c] (units?_of_unit? (by simp) hunit) fun _ => meaning?_char
  | @code ds hcode =>
      obtain ⟨hhigh, hlow⟩ := not_surrogate_toNat c
      refine literal?_of_units? [.code c.toNat] (units?_of_unit? (by simp) (unit?_code hcode s))
        fun us => ?_
      rw [List.singleton_append, meaning?_code hhigh hlow, Char.ofNat_toNat]
  | @pair m n ds es hm hn hhigh hlow hc =>
      have hchar : ofSurrogates m n = c := Char.toNat_inj.mp ((toNat_ofSurrogates hhigh hlow).trans hc.symm)
      have hunits : units? ('\\' :: 'u' :: (ds ++ '\\' :: 'u' :: (es ++ s))) =
          (units? s).map fun r => (.code m :: .code n :: r.1, r.2) := by
        rw [units?_of_unit? (by simp) (unit?_code hm _), units?_of_unit? (by simp) (unit?_code hn s),
          Option.map_map]
        rfl
      simp only [List.cons_append, List.append_assoc]
      refine literal?_of_units? [.code m, .code n] hunits fun us => ?_
      rw [List.cons_append, List.singleton_append, meaning?_pair hhigh hlow, hchar]

/-- **The text of characters is a literal of them**, up to the quote behind it. -/
theorem WritesChars.literal?_append (h : WritesChars cs t) (rest : List Char) :
    literal? (t ++ '"' :: rest) = some (cs, rest) := by
  induction h with
  | nil => simp [literal?, meaning?]
  | cons hc hs ih => rw [List.append_assoc, hc.literal?_append, ih, Option.map_some]

/-! ## From a text to its characters -/

/-- **A literal whose surrogates are paired is the text of some characters.** -/
theorem SurrogatesPaired.exists_writesChars (hs : SurrogatesPaired s) (h : units? s = some (us, rest)) :
    SurrogatesPaired rest ∧
      ∃ cs t, WritesChars cs t ∧ meaning? us = some cs ∧ s = t ++ '"' :: rest := by
  -- each way of pairing reads one character, and the literal behind it has a meaning by induction
  induction hs generalizing us with
  | nil => simp at h
  | @plain c s hc hs ih =>
      by_cases hquote : c = '"'
      · subst hquote
        rw [units?_quote] at h
        cases h
        exact ⟨hs, [], [], .nil, rfl, rfl⟩
      · obtain ⟨u, s', us', hu, hus', rfl⟩ := exists_unit?_of_units? (by simpa using hquote) h
        rcases unit?_eq_some_iff.mp hu with ⟨c', rfl, heq, hcontrol, hbackslash⟩ | ⟨_, _, -, heq, -⟩ |
          ⟨_, _, -, heq, -⟩
        · cases heq
          obtain ⟨hrest, cs, t, hcs, hmeaning, rfl⟩ := ih hus'
          exact ⟨hrest, c :: cs, [c] ++ t, .cons (.plain hcontrol hquote hbackslash) hcs,
            by rw [meaning?_char, hmeaning]; rfl, rfl⟩
        · exact absurd (List.cons.inj heq).1 hc
        · exact absurd (List.cons.inj heq).1 hc
  | @letter l s hl hs ih =>
      obtain ⟨u, s', us', hu, hus', rfl⟩ := exists_unit?_of_units? (by simp) h
      rcases unit?_eq_some_iff.mp hu with ⟨_, -, heq, -, hbackslash⟩ | ⟨c, l', rfl, heq, hescape⟩ |
        ⟨_, _, -, heq, -⟩
      · exact absurd (List.cons.inj heq).1.symm hbackslash
      · cases heq
        obtain ⟨hrest, cs, t, hcs, hmeaning, rfl⟩ := ih hus'
        exact ⟨hrest, c :: cs, ['\\', l] ++ t, .cons (.letter hescape) hcs,
          by rw [meaning?_char, hmeaning]; rfl, rfl⟩
      · exact absurd (List.cons.inj (List.cons.inj heq).2).1 hl
  | @code n s rest' hn hhigh hlow hs ih =>
      obtain ⟨ds, hds, rfl⟩ := code?_eq_some_iff_append.mp hn
      obtain ⟨u, s', us', hu, hus', rfl⟩ := exists_unit?_of_units? (by simp) h
      rw [unit?_code hds] at hu
      cases hu
      obtain ⟨hrest, cs, t, hcs, hmeaning, rfl⟩ := ih hus'
      have hchar : code? ds = some ((Char.ofNat n).toNat, []) := by
        rw [toNat_ofNat_of_code? hds hhigh hlow, hds]
      exact ⟨hrest, Char.ofNat n :: cs, ('\\' :: 'u' :: ds) ++ t, .cons (.code hchar) hcs,
        by rw [meaning?_code hhigh hlow, hmeaning]; rfl, by simp⟩
  | @pair m n s s' rest' hm hn hhigh hlow hs ih =>
      obtain ⟨ds, hds, rfl⟩ := code?_eq_some_iff_append.mp hm
      obtain ⟨es, hes, rfl⟩ := code?_eq_some_iff_append.mp hn
      obtain ⟨u, s', us', hu, hus', rfl⟩ := exists_unit?_of_units? (by simp) h
      rw [unit?_code hds] at hu
      cases hu
      obtain ⟨u, s', us', hu, hus', rfl⟩ := exists_unit?_of_units? (by simp) hus'
      rw [unit?_code hes] at hu
      cases hu
      obtain ⟨hrest, cs, t, hcs, hmeaning, rfl⟩ := ih hus'
      exact ⟨hrest, ofSurrogates m n :: cs, ('\\' :: 'u' :: (ds ++ '\\' :: 'u' :: es)) ++ t,
        .cons (.pair hds hes hhigh hlow (toNat_ofSurrogates hhigh hlow)) hcs,
        by rw [meaning?_pair hhigh hlow, hmeaning]; rfl, by simp⟩
  | @noCode s hnone hs ih =>
      obtain ⟨u, s', us', hu, -, -⟩ := exists_unit?_of_units? (by simp) h
      simp [unit?, escape?, hnone] at hu
  | last =>
      obtain ⟨u, s', us', hu, -, -⟩ := exists_unit?_of_units? (by simp) h
      simp [unit?, escape?] at hu

theorem SurrogatesPaired.tail (h : SurrogatesPaired (c :: s)) (hc : c ≠ '\\') : SurrogatesPaired s := by
  cases h with
  | plain _ h => exact h
  | _ => exact absurd rfl hc

/-- Text without backslashes is passed over. -/
theorem SurrogatesPaired.of_append (h : SurrogatesPaired (t ++ s)) (ht : '\\' ∉ t) :
    SurrogatesPaired s := by
  induction t with
  | nil => exact h
  | cons c t ih =>
      rw [List.mem_cons, not_or] at ht
      exact ih (h.tail (Ne.symm ht.1)) ht.2

theorem SurrogatesPaired.append (hs : SurrogatesPaired s) (ht : '\\' ∉ t) :
    SurrogatesPaired (t ++ s) := by
  induction t with
  | nil => exact hs
  | cons c t ih =>
      rw [List.mem_cons, not_or] at ht
      exact .plain (Ne.symm ht.1) (ih ht.2)

end MethodSig.Json
