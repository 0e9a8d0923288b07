import MethodSig.Proofs.Json.Skipped

/-!
# `Proofs.Json.Extended` — the front of a text that goes on

What is read from the front of a text is also read when more text follows, and the more text is then left
as well. A string ends with its quote and a word with its last letter, so this holds of them in any text. A
number ends where the text stops going on with it; in a text that does not end with a digit, something
stands behind each of its parts, and the more text cannot reach them (`number?_settled`).

So what the front of such a text turns out to be is what it stays (`found?_append`).
-/

namespace MethodSig.Json

variable {α : Type} {s t rest : List Char} {c : Char}

/-! ## Numbers -/

/-- **Reading stops before the end of the text**, so that more text changes nothing. -/
structure Settled (read : List Char → Option (α × List Char)) (s : List Char) (a : α) (rest : List Char) :
    Prop where
  ne_nil : rest ≠ []
  stopsBack : StopsBack Char.isDigit rest
  append : ∀ u, read (s ++ u) = some (a, rest ++ u)

theorem digits?_settled {ds : List Char} (hs : StopsBack Char.isDigit s)
    (h : digits? s = some (ds, rest)) : Settled digits? s ds rest := by
  obtain ⟨hds, hstop, rfl⟩ := digits?_eq_some_iff.mp h
  have hrest := hds.ne_nil_of_stopsBack hs
  refine ⟨hrest, hs.of_append, fun u => ?_⟩
  exact digits?_eq_some_iff.mpr ⟨hds, hstop.append_of_ne_nil hrest, List.append_assoc ..⟩

theorem whole?_settled {ds : List Char} (hs : StopsBack Char.isDigit s)
    (h : whole? s = some (ds, rest)) : Settled whole? s ds rest := by
  obtain ⟨hds, hstop, rfl⟩ := whole?_eq_some_iff.mp h
  have hrest := hds.isDigits.ne_nil_of_stopsBack hs
  refine ⟨hrest, hs.of_append, fun u => ?_⟩
  exact whole?_eq_some_iff.mpr ⟨hds, hstop.append_of_ne_nil hrest, List.append_assoc ..⟩

theorem fraction?_cons :
    fraction? (c :: s) =
      if c = '.' then (digits? s).map fun r => (some r.1, r.2) else some (none, c :: s) := by
  split
  · rename_i hc
    subst hc
    rfl
  · rename_i hc
    unfold fraction?
    split
    · rename_i heq
      exact absurd (List.cons.inj heq).1 hc
    · rfl

theorem fraction?_settled {fraction : Option (List Char)} (hs : StopsBack Char.isDigit s) (hne : s ≠ [])
    (h : fraction? s = some (fraction, rest)) : Settled fraction? s fraction rest := by
  cases s with
  | nil => exact absurd rfl hne
  | cons c s =>
      rw [fraction?_cons] at h
      split at h
      · rename_i hc
        obtain ⟨⟨ds, r⟩, hds, heq⟩ := Option.map_eq_some_iff.mp h
        cases heq
        have hsettled := digits?_settled hs.tail hds
        refine ⟨hsettled.ne_nil, hsettled.stopsBack, fun u => ?_⟩
        rw [List.cons_append, fraction?_cons, if_pos hc, hsettled.append, Option.map_some]
      · rename_i hc
        cases h
        refine ⟨hne, hs, fun u => ?_⟩
        rw [List.cons_append, fraction?_cons, if_neg hc]

theorem exponentSign_cons :
    exponentSign (c :: s) = if c = '+' then (false, s) else if c = '-' then (true, s) else (false, c :: s) := by
  split_ifs with hplus hminus
  · subst hplus
    rfl
  · subst hminus
    rfl
  · unfold exponentSign
    split
    · rename_i heq
      exact absurd (List.cons.inj heq).1 hplus
    · rename_i heq
      exact absurd (List.cons.inj heq).1 hminus
    · rfl

theorem exponent?_settled {exponent : Option (Bool × List Char)} (hs : StopsBack Char.isDigit s)
    (hne : s ≠ []) (h : exponent? s = some (exponent, rest)) : Settled exponent? s exponent rest := by
  cases s with
  | nil => exact absurd rfl hne
  | cons e s =>
      by_cases he : e = 'e' ∨ e = 'E'
      · rw [exponent?_cons he] at h
        obtain ⟨⟨ds, r⟩, hds, heq⟩ := Option.map_eq_some_iff.mp h
        cases heq
        -- something stands behind the `e`, so the sign is settled
        obtain ⟨sign, -, hsign⟩ := exponentSign_eq s
        have hback : StopsBack Char.isDigit (exponentSign s).2 := by
          have hs' := hs.tail
          rw [hsign] at hs'
          exact hs'.of_append
        have hsettled := digits?_settled hback hds
        have happend : ∀ u, exponentSign (s ++ u) = ((exponentSign s).1, (exponentSign s).2 ++ u) := by
          intro u
          cases s with
          | nil => simp [exponentSign, digits?, run?] at hds
          | cons c s =>
              rw [List.cons_append, exponentSign_cons, exponentSign_cons]
              split_ifs <;> rfl
        refine ⟨hsettled.ne_nil, hsettled.stopsBack, fun u => ?_⟩
        rw [List.cons_append, exponent?_cons he, happend, hsettled.append, Option.map_some]
      · have hnone : ∀ s, exponent? (e :: s) = some (none, e :: s) := fun s => by rw [exponent?, if_neg he]
        rw [hnone] at h
        cases h
        exact ⟨hne, hs, fun u => hnone (s ++ u)⟩

theorem numberSign_cons : numberSign (c :: s) = if c = '-' then (true, s) else (false, c :: s) := by
  split
  · rename_i hc
    subst hc
    rfl
  · rename_i hc
    unfold numberSign
    split
    · rename_i heq
      exact absurd (List.cons.inj heq).1 hc
    · rfl

/-- **A number is settled** in a text that does not end with a digit. -/
theorem number?_settled {l : NumberLiteral} (hs : StopsBack Char.isDigit s)
    (h : number? s = some (l, rest)) : Settled number? s l rest := by
  obtain ⟨s₁, s₂, hwhole, hfraction, hexponent, hnegative⟩ := number?_eq_some_iff.mp h
  obtain ⟨sign, -, hsign⟩ := numberSign_eq s
  have hback : StopsBack Char.isDigit (numberSign s).2 := by
    rw [hsign] at hs
    exact hs.of_append
  have happend : ∀ u, numberSign (s ++ u) = ((numberSign s).1, (numberSign s).2 ++ u) := by
    intro u
    cases s with
    | nil => simp [numberSign, whole?, digits?, run?] at hwhole
    | cons c s =>
        rw [List.cons_append, numberSign_cons, numberSign_cons]
        split_ifs <;> rfl
  have h₁ := whole?_settled hback hwhole
  have h₂ := fraction?_settled h₁.stopsBack h₁.ne_nil hfraction
  have h₃ := exponent?_settled h₂.stopsBack h₂.ne_nil hexponent
  refine ⟨h₃.ne_nil, h₃.stopsBack, fun u => number?_eq_some_iff.mpr ⟨s₁ ++ u, s₂ ++ u, ?_⟩⟩
  rw [happend]
  exact ⟨h₁.append u, h₂.append u, h₃.append u, hnegative⟩

/-! ## Strings -/

theorem unit?_append {x : LiteralUnit} (h : unit? s = some (x, rest)) (u : List Char) :
    unit? (s ++ u) = some (x, rest ++ u) := by
  rw [unit?_eq_some_iff] at h ⊢
  rcases h with ⟨c, rfl, rfl, hc⟩ | ⟨c, l, rfl, rfl, hl⟩ | ⟨n, t, rfl, rfl, hn⟩
  · exact Or.inl ⟨c, rfl, rfl, hc⟩
  · exact Or.inr (Or.inl ⟨c, l, rfl, rfl, hl⟩)
  · obtain ⟨ds, hds, rfl⟩ := code?_eq_some_iff_append.mp hn
    exact Or.inr (Or.inr ⟨n, ds ++ rest ++ u, rfl, rfl,
      code?_eq_some_iff_append.mpr ⟨ds, hds, List.append_assoc ..⟩⟩)

theorem suffix_of_unit? {x : LiteralUnit} (h : unit? s = some (x, rest)) : rest <:+ s := by
  rcases unit?_eq_some_iff.mp h with ⟨c, -, rfl, -⟩ | ⟨c, l, -, rfl, -⟩ | ⟨n, t, -, rfl, hn⟩
  · exact List.suffix_cons c rest
  · exact ⟨['\\', l], rfl⟩
  · obtain ⟨ds, -, rfl⟩ := code?_eq_some_iff_append.mp hn
    exact ⟨'\\' :: 'u' :: ds, rfl⟩

/-- **A string ends with its quote**, whatever follows. -/
theorem units?_append {us : List LiteralUnit} (h : units? s = some (us, rest)) :
    rest <:+ s ∧ ∀ u, units? (s ++ u) = some (us, rest ++ u) := by
  induction us generalizing s with
  | nil =>
      by_cases hquote : s.head? = some '"'
      · obtain ⟨s, rfl⟩ := List.head?_eq_some_iff.mp hquote
        rw [units?_quote] at h
        cases h
        exact ⟨List.suffix_cons _ _, fun u => units?_quote _⟩
      · obtain ⟨_, _, _, -, -, heq⟩ := exists_unit?_of_units? hquote h
        cases heq
  | cons x us ih =>
      have hquote : s.head? ≠ some '"' := by
        intro hquote
        obtain ⟨s, rfl⟩ := List.head?_eq_some_iff.mp hquote
        rw [units?_quote] at h
        cases h
      obtain ⟨x, s', us, hx, hus, heq⟩ := exists_unit?_of_units? hquote h
      cases heq
      obtain ⟨hsuffix, happend⟩ := ih hus
      refine ⟨hsuffix.trans (suffix_of_unit? hx), fun u => ?_⟩
      have hquote' : (s ++ u).head? ≠ some '"' := by
        cases s with
        | nil => cases hx
        | cons c s => exact hquote
      rw [units?_of_unit? hquote' (unit?_append hx u), happend, Option.map_some]

theorem literal?_append {cs : List Char} (h : literal? s = some (cs, rest)) :
    rest <:+ s ∧ ∀ u, literal? (s ++ u) = some (cs, rest ++ u) := by
  obtain ⟨us, hus, hcs⟩ := literal?_eq_some_iff.mp h
  obtain ⟨hsuffix, happend⟩ := units?_append hus
  exact ⟨hsuffix, fun u => literal?_eq_some_iff.mpr ⟨us, happend u, hcs⟩⟩

/-! ## Words -/

/-- A word at the front stays there. -/
theorem isPrefixOf_append {word : List Char} (h : word.isPrefixOf s = true) (u : List Char) :
    word.isPrefixOf (s ++ u) = true :=
  List.isPrefixOf_iff_prefix.mpr ((List.isPrefixOf_iff_prefix.mp h).trans (List.prefix_append s u))

/-- It has the first letter of the text. -/
theorem word_append {d : Char} {word : List Char} (h : word.isPrefixOf (c :: s) = true)
    (hhead : word.head? = some d) (u : List Char) :
    c = d ∧ word.isPrefixOf (c :: (s ++ u)) = true := by
  obtain ⟨word, rfl⟩ := List.head?_eq_some_iff.mp hhead
  refine ⟨?_, isPrefixOf_append h u⟩
  simp only [List.isPrefixOf_cons_cons, Bool.and_eq_true, beq_iff_eq] at h
  exact h.1.symm

/-! ## What a value is -/

/-- **What is found at the front stays there.** -/
theorem found?_append {f : Found} (hs : StopsBack Char.isDigit s) (h : found? s = some f) (u : List Char) :
    found? (s ++ u) = some f := by
  cases s with
  | nil => cases h
  | cons c s =>
      rw [List.cons_append]
      rw [found?] at h
      split_ifs at h with hsequence hmap hstring hnull htrue hfalse
      · rw [found?, if_pos hsequence, h]
      · rw [found?, if_neg hsequence, if_pos hmap, h]
      · obtain ⟨⟨cs, r⟩, hliteral, heq⟩ := Option.map_eq_some_iff.mp h
        rw [found?, if_neg hsequence, if_neg hmap, if_pos hstring, (literal?_append hliteral).2,
          Option.map_some, ← heq]
      · obtain ⟨rfl, hnull'⟩ := word_append (d := 'n') hnull rfl u
        rw [found?, if_neg hsequence, if_neg hmap, if_neg hstring, if_pos hnull', h]
      · obtain ⟨rfl, htrue'⟩ := word_append (d := 't') htrue rfl u
        rw [found?, if_neg hsequence, if_neg hmap, if_neg hstring, if_neg (by simp), if_pos htrue', h]
      · obtain ⟨rfl, hfalse'⟩ := word_append (d := 'f') hfalse rfl u
        rw [found?, if_neg hsequence, if_neg hmap, if_neg hstring, if_neg (by simp), if_neg (by simp),
          if_pos hfalse', h]
      · obtain ⟨⟨l, r⟩, hnumber, hfound⟩ := Option.bind_eq_some_iff.mp h
        have hn : 'n' ≠ c := ne_of_number? hnumber (by decide) (by decide)
        have ht : 't' ≠ c := ne_of_number? hnumber (by decide) (by decide)
        have hf : 'f' ≠ c := ne_of_number? hnumber (by decide) (by decide)
        have hnumber' : number? (c :: (s ++ u)) = some (l, r ++ u) := (number?_settled hs hnumber).append u
        rw [found?, if_neg hsequence, if_neg hmap, if_neg hstring, if_neg (by simp [hn]),
          if_neg (by simp [ht]), if_neg (by simp [hf]), hnumber']
        exact hfound

/-- **A scalar that is passed over is passed over** whatever follows. -/
theorem skipScalar_append (hs : StopsBack Char.isDigit s) (h : skipScalar s = .ok ((), rest)) :
    StopsBack Char.isDigit rest ∧ ∀ u, skipScalar (s ++ u) = .ok ((), rest ++ u) := by
  rcases skipScalar_eq_ok_iff.mp h with ⟨us, t, rfl, hus⟩ | ⟨word, hmem, rfl⟩ | ⟨l, hl⟩
  · obtain ⟨hsuffix, happend⟩ := units?_append hus
    exact ⟨hs.tail.of_suffix hsuffix, fun u =>
      skipScalar_eq_ok_iff.mpr (Or.inl ⟨us, t ++ u, rfl, happend u⟩)⟩
  · exact ⟨hs.of_append, fun u =>
      skipScalar_eq_ok_iff.mpr (Or.inr (Or.inl ⟨word, hmem, List.append_assoc ..⟩))⟩
  · have hsettled := number?_settled hs hl
    exact ⟨hsettled.stopsBack, fun u =>
      skipScalar_eq_ok_iff.mpr (Or.inr (Or.inr ⟨l, hsettled.append u⟩))⟩

end MethodSig.Json
