import MethodSig.Proofs.Json.Literal
import MethodSig.Proofs.Json.Number
import Mathlib.Data.List.Forall2

/-!
# `Proofs.Json.Values` — readers and the values they read

A reader takes a result from the front of a text. What it has to do with values is a relation `means`
between results and values, in two halves.

* `ReadsOnly`: what is taken is the text of a value, and the result means that value.
* `ReadsAll`: every text of a value that a result means is taken, with that result.

The halves go from the reader of one element to the reader of an array (`ReadsOnly.readArray`,
`ReadsAll.readArray`), and from the reader of one member to the reader of an object, where the members in
turn change what is known so far (`MemberReadsOnly.readObject`, `MemberReadsAll.readObject`).

The first half needs that surrogates are paired in what is read, since a string that is passed over need
not mean anything; it hands this on to the rest of the text. The second half needs that the rest does not
go on with a number.
-/

namespace MethodSig.Json

variable {s t w rest : List Char} {c : Char} {v : Json}

/-! ## Blanks -/

theorem not_space_of_mem_isSpaces {p : Char → Bool} (hw : IsSpaces w)
    (hp : ∀ c, isSpace c = true → p c = false) (hs : Stops p s) : Stops p (w ++ s) := by
  cases w with
  | nil => exact hs
  | cons c w => exact stops_cons.mpr (hp c (hw c List.mem_cons_self))

theorem goesOn_of_isSpace (h : isSpace c = true) : goesOn c = false := by
  simp only [isSpace, Bool.or_eq_true, beq_iff_eq] at h
  rcases h with ((rfl | rfl) | rfl) | rfl <;> decide

/-- Blanks and what does not go on with a number do not go on with one. -/
theorem IsSpaces.stops_goesOn (hw : IsSpaces w) (hs : Stops goesOn s) : Stops goesOn (w ++ s) :=
  not_space_of_mem_isSpaces hw (fun _ => goesOn_of_isSpace) hs

theorem IsSpaces.stops_goesOn_cons (hw : IsSpaces w) (hc : goesOn c = false) :
    Stops goesOn (w ++ c :: s) := hw.stops_goesOn (stops_cons.mpr hc)

theorem IsSpaces.backslash_notMem (hw : IsSpaces w) : '\\' ∉ w :=
  fun h => absurd (hw _ h) (by decide)

theorem isSpaces_nil : IsSpaces [] := fun _ h => absurd h List.not_mem_nil

theorem IsSpaces.append (hw : IsSpaces w) (ht : IsSpaces t) : IsSpaces (w ++ t) :=
  fun c hc => (List.mem_append.mp hc).elim (hw c) (ht c)

theorem skipSpace_append (hw : IsSpaces w) : skipSpace (w ++ s) = skipSpace s :=
  List.dropWhile_append_of_pos hw

theorem skipSpace_cons (hc : isSpace c = false) : skipSpace (c :: s) = c :: s := by
  simp [skipSpace, hc]

/-- What stands before the first character that is no blank is passed over. -/
theorem skipSpace_append_cons (hw : IsSpaces w) (hc : isSpace c = false) :
    skipSpace (w ++ c :: s) = c :: s := by
  rw [skipSpace_append hw, skipSpace_cons hc]

theorem eq_append_skipSpace (s : List Char) : ∃ w, IsSpaces w ∧ s = w ++ skipSpace s :=
  ⟨s.takeWhile isSpace, fun _ hc => List.mem_takeWhile_imp hc, List.takeWhile_append_dropWhile.symm⟩

theorem eq_append_of_skipSpace (h : skipSpace s = t) : ∃ w, IsSpaces w ∧ s = w ++ t :=
  h ▸ eq_append_skipSpace s

theorem SurrogatesPaired.skipSpace (h : SurrogatesPaired s) : SurrogatesPaired (skipSpace s) := by
  obtain ⟨w, hw, hs⟩ := eq_append_skipSpace s
  rw [hs] at h
  exact h.of_append hw.backslash_notMem

/-- Behind blanks and one character. -/
theorem SurrogatesPaired.behind (h : SurrogatesPaired s) (hs : Json.skipSpace s = c :: rest)
    (hc : c ≠ '\\') : SurrogatesPaired rest ∧ ∃ w, IsSpaces w ∧ s = w ++ c :: rest := by
  have h' := h.skipSpace
  rw [hs] at h'
  exact ⟨h'.tail hc, eq_append_of_skipSpace hs⟩

/-! ## Readers -/

/-- A step after another succeeds if both do. -/
theorem bind_eq_ok_iff {α β : Type} {x : Except ReadError α} {f : α → Except ReadError β} {b : β} :
    x >>= f = .ok b ↔ ∃ a, x = .ok a ∧ f a = .ok b := by
  cases x with
  | error e => simp [bind, Except.bind]
  | ok a => simp [bind, Except.bind]

theorem eq_ok_of_toOption {ε α : Type} {x : Except ε α} {a : α} (h : x.toOption = some a) : x = .ok a := by
  cases x with
  | error e => cases h
  | ok b =>
      cases h
      rfl

section Readers

variable {α : Type}

/-- **Only values are read**, and the result means the value. -/
def ReadsOnly (read : Reader α) (means : α → Json → Prop) : Prop :=
  ∀ s a rest, SurrogatesPaired s → read s = .ok (a, rest) →
    SurrogatesPaired rest ∧
      ∃ w v t, IsSpaces w ∧ Writes v t ∧ means a v ∧ s = w ++ (t ++ rest)

/-- **All values are read** that a result means, in texts of at most `n` characters. -/
def ReadsAll (n : Nat) (read : Reader α) (means : α → Json → Prop) : Prop :=
  ∀ w v t rest a, IsSpaces w → Writes v t → t.length ≤ n → means a v → Stops goesOn rest →
    read (w ++ (t ++ rest)) = .ok (a, rest)

end Readers

/-! ## Texts of values -/

/-- A number begins with a minus or a digit. -/
theorem IsNumber.exists_cons (h : IsNumber t) :
    ∃ c tail, t = c :: tail ∧ (c = '-' ∨ c.isDigit = true) := by
  obtain ⟨hsign, hwhole, -, -⟩ := h
  rename_i sign w f e
  rcases hsign with rfl | rfl
  · have happend : ∃ c tail, w ++ (f ++ e) = c :: tail ∧ c.isDigit = true :=
      hwhole.isDigits.exists_cons_append
    obtain ⟨c, tail, htail, hc⟩ := happend
    exact ⟨c, tail, htail, Or.inr hc⟩
  · exact ⟨'-', _, rfl, Or.inl rfl⟩

/-- A number begins with no letter. -/
theorem ne_of_number? {l : NumberLiteral} {d : Char}
    (h : number? (c :: s) = some (l, rest)) (hdigit : d.isDigit = false) (hminus : d ≠ '-') : d ≠ c := by
  obtain ⟨t, ht, heq⟩ := exists_isNumber_of_number? h
  obtain ⟨c, tail, rfl, hc⟩ := ht.exists_cons
  cases heq
  rintro rfl
  rcases hc with rfl | hc
  · exact hminus rfl
  · rw [hc] at hdigit
    cases hdigit

/-- The text of a value begins with what is neither a blank nor a closing bracket. -/
theorem Writes.exists_cons (h : Writes v t) : ∃ c tail, t = c :: tail ∧ isSpace c = false ∧ c ≠ ']' := by
  cases h with
  | null => exact ⟨'n', _, rfl, by decide, by decide⟩
  | @bool b =>
      cases b
      · exact ⟨'f', _, rfl, by decide, by decide⟩
      · exact ⟨'t', _, rfl, by decide, by decide⟩
  | number h =>
      obtain ⟨c, tail, htail, hc⟩ := h.exists_cons
      refine ⟨c, tail, htail, ?_, ?_⟩
      · rw [Bool.eq_false_iff]
        intro hspace
        simp only [isSpace, Bool.or_eq_true, beq_iff_eq] at hspace
        rcases hspace with ((rfl | rfl) | rfl) | rfl <;> exact absurd hc (by decide)
      · rintro rfl
        exact absurd hc (by decide)
  | string _ => exact ⟨'"', _, rfl, by decide, by decide⟩
  | array _ => exact ⟨'[', _, rfl, by decide, by decide⟩
  | object _ => exact ⟨'{', _, rfl, by decide, by decide⟩

theorem Writes.skipSpace_append (h : Writes v t) (hw : IsSpaces w) :
    skipSpace (w ++ (t ++ rest)) = t ++ rest := by
  obtain ⟨c, tail, rfl, hc, -⟩ := h.exists_cons
  rw [List.cons_append, skipSpace_append_cons hw hc]

section Separated

variable {β : Type} {writes : β → List Char → Prop} {xs : List β}

/-- Further blanks may stand in front. -/
theorem Separated.prepend (h : Separated writes xs t) (hw : IsSpaces w) :
    Separated writes xs (w ++ t) := by
  cases h with
  | single ha h hb =>
      rw [← List.append_assoc]
      exact .single (hw.append ha) h hb
  | cons ha h hb hs =>
      rw [← List.append_assoc]
      exact .cons (hw.append ha) h hb hs

/-- Without the blanks in front the text begins with the text of the first thing. -/
theorem Separated.exists_trimmed {p : Char → Prop}
    (hstart : ∀ x t, writes x t → ∃ c tail, t = c :: tail ∧ isSpace c = false ∧ p c)
    (h : Separated writes xs t) :
    ∃ w c tail, IsSpaces w ∧ t = w ++ c :: tail ∧ isSpace c = false ∧ p c ∧
      Separated writes xs (c :: tail) := by
  cases h with
  | single ha h hb =>
      obtain ⟨c, tail, rfl, hc, hp⟩ := hstart _ _ h
      exact ⟨_, c, _, ha, rfl, hc, hp, .single isSpaces_nil h hb⟩
  | cons ha h hb hs =>
      obtain ⟨c, tail, rfl, hc, hp⟩ := hstart _ _ h
      exact ⟨_, c, _, ha, rfl, hc, hp, .cons isSpaces_nil h hb hs⟩

end Separated

/-! ## Elements of an array -/

section Arrays

variable {α : Type} {item : Reader α} {means : α → Json → Prop} {as : List α} {vs : List Json}
  {room n : Nat}

theorem readItems_eq_ok_iff :
    readItems item (room + 1) s = .ok (as, rest) ↔
      ∃ a s₁, item s = .ok (a, s₁) ∧
        ((∃ s₂ as', skipSpace s₁ = ',' :: s₂ ∧ readItems item room s₂ = .ok (as', rest) ∧
            as = a :: as') ∨
          skipSpace s₁ = ']' :: rest ∧ as = [a]) := by
  rw [readItems, bind_eq_ok_iff, Prod.exists]
  constructor
  · rintro ⟨a, s₁, ha, h⟩
    refine ⟨a, s₁, ha, ?_⟩
    dsimp only at h
    split at h
    · rename_i s₂ hs
      obtain ⟨⟨as', r⟩, has, heq⟩ := bind_eq_ok_iff.mp h
      cases heq
      exact Or.inl ⟨s₂, as', hs, has, rfl⟩
    · rename_i s₂ hs
      cases h
      exact Or.inr ⟨hs, rfl⟩
    · cases h
  · rintro ⟨a, s₁, ha, h⟩
    refine ⟨a, s₁, ha, ?_⟩
    rcases h with ⟨s₂, as', hs, has, rfl⟩ | ⟨hs, rfl⟩
    · simp only [hs, has]
      rfl
    · simp only [hs]
      rfl

theorem readArray_eq_ok_iff :
    readArray item s = .ok (as, rest) ↔
      skipSpace s = ']' :: rest ∧ as = [] ∨
        (∀ r, skipSpace s ≠ ']' :: r) ∧
          readItems item (skipSpace s).length (skipSpace s) = .ok (as, rest) := by
  unfold readArray
  constructor
  · intro h
    split at h
    · rename_i hs
      cases h
      exact Or.inl ⟨hs, rfl⟩
    · rename_i hs
      exact Or.inr ⟨hs, h⟩
  · rintro (⟨hs, rfl⟩ | ⟨hs, h⟩)
    · simp only [hs]
    · split
      · rename_i r hr
        exact absurd hr (hs r)
      · exact h

/-- The elements of an array that has some. -/
theorem ReadsOnly.readItems (hitem : ReadsOnly item means) (hs : SurrogatesPaired s)
    (h : readItems item room s = .ok (as, rest)) :
    SurrogatesPaired rest ∧ ∃ v vs t, Separated Writes (v :: vs) t ∧
      List.Forall₂ means as (v :: vs) ∧ s = t ++ ']' :: rest := by
  induction room generalizing s as with
  | zero => cases h
  | succ room ih =>
      obtain ⟨a, s₁, ha, hnext⟩ := readItems_eq_ok_iff.mp h
      obtain ⟨hs₁, w, v, t, hw, ht, hv, rfl⟩ := hitem _ _ _ hs ha
      rcases hnext with ⟨s₂, as', hcomma, has, rfl⟩ | ⟨hclose, rfl⟩
      · obtain ⟨hs₂, b, hb, rfl⟩ := hs₁.behind hcomma (by decide)
        obtain ⟨hrest, v', vs, ts, hts, hvs, rfl⟩ := ih hs₂ has
        exact ⟨hrest, v, v' :: vs, _, .cons hw ht hb hts, .cons hv hvs, by simp⟩
      · obtain ⟨hrest, b, hb, rfl⟩ := hs₁.behind hclose (by decide)
        exact ⟨hrest, v, [], _, .single hw ht hb, .cons hv .nil, by simp⟩

/-- **From elements to arrays.** -/
theorem ReadsOnly.readArray (hitem : ReadsOnly item means) (hs : SurrogatesPaired s)
    (h : readArray item s = .ok (as, rest)) :
    SurrogatesPaired rest ∧ ∃ vs t, Listed Writes vs t ∧ List.Forall₂ means as vs ∧
      s = t ++ ']' :: rest := by
  rcases readArray_eq_ok_iff.mp h with ⟨hclose, rfl⟩ | ⟨-, hitems⟩
  · obtain ⟨hrest, w, hw, rfl⟩ := hs.behind hclose (by decide)
    exact ⟨hrest, [], w, .empty hw, .nil, rfl⟩
  · obtain ⟨w, hw, hskip⟩ := eq_append_skipSpace s
    obtain ⟨hrest, v, vs, t, ht, hvs, heq⟩ := hitem.readItems hs.skipSpace hitems
    refine ⟨hrest, v :: vs, w ++ t, .items (ht.prepend hw), hvs, ?_⟩
    rw [hskip, heq, List.append_assoc]

/-- The elements of an array that has some, where there is room for all of them. -/
theorem ReadsAll.readItems (hitem : ReadsAll n item means) (hvs : Separated Writes vs t)
    (hn : t.length ≤ n) (hroom : t.length ≤ room) (has : List.Forall₂ means as vs) :
    readItems item room (t ++ ']' :: rest) = .ok (as, rest) := by
  -- behind an element come blanks and a comma or the bracket, which do not go on with a number
  induction hvs generalizing as room with
  | @single v a t b ha ht hb =>
      obtain ⟨x, _, hx, hnil, rfl⟩ := List.forall₂_cons_right_iff.mp has
      rw [List.forall₂_nil_right_iff.mp hnil]
      obtain ⟨c, tail, rfl, -⟩ := ht.exists_cons
      simp only [List.length_append, List.length_cons] at hn hroom
      obtain ⟨room, rfl⟩ : ∃ r, room = r + 1 := ⟨room - 1, by omega⟩
      refine readItems_eq_ok_iff.mpr ⟨x, b ++ ']' :: rest, ?_, Or.inr ⟨?_, rfl⟩⟩
      · rw [List.append_assoc, List.append_assoc]
        exact hitem _ _ _ _ _ ha ht (by simp only [List.length_cons]; omega) hx (hb.stops_goesOn_cons (by decide))
      · exact skipSpace_append_cons hb (by decide)
  | @cons v vs a t b ts ha ht hb hts ih =>
      obtain ⟨x, as', hx, has', rfl⟩ := List.forall₂_cons_right_iff.mp has
      simp only [List.length_append, List.length_cons] at hn hroom
      obtain ⟨room, rfl⟩ : ∃ r, room = r + 1 := ⟨room - 1, by omega⟩
      refine readItems_eq_ok_iff.mpr ⟨x, b ++ ',' :: (ts ++ ']' :: rest), ?_, Or.inl ⟨ts ++ ']' :: rest,
        as', ?_, ih (by omega) (by omega) has', rfl⟩⟩
      · simp only [List.append_assoc, List.cons_append]
        exact hitem _ _ _ _ _ ha ht (by omega) hx (hb.stops_goesOn_cons (by decide))
      · exact skipSpace_append_cons hb (by decide)

/-- **From elements to arrays.** -/
theorem ReadsAll.readArray (hitem : ReadsAll n item means) (hvs : Listed Writes vs t)
    (hn : t.length ≤ n) (has : List.Forall₂ means as vs) :
    readArray item (t ++ ']' :: rest) = .ok (as, rest) := by
  rw [readArray_eq_ok_iff]
  cases hvs with
  | empty hw =>
      cases has
      exact Or.inl ⟨skipSpace_append_cons hw (by decide), rfl⟩
  | items h =>
      obtain ⟨w, c, tail, hw, rfl, hc, hclose, h'⟩ := h.exists_trimmed fun _ _ => Writes.exists_cons
      have hskip : skipSpace (w ++ c :: tail ++ ']' :: rest) = c :: tail ++ ']' :: rest := by
        rw [List.append_assoc, List.cons_append, skipSpace_append_cons hw hc]
      simp only [List.length_append] at hn
      rw [hskip]
      refine Or.inr ⟨fun r hr => hclose (List.cons.inj hr).1, hitem.readItems h' (by omega) ?_ has⟩
      simp only [List.length_append]
      omega

end Arrays

/-! ## Members of an object -/

section Objects

variable {σ : Type} {member : σ → List LiteralUnit → Reader σ} {step : σ → String × Json → σ → Prop}
  {state state' : σ} {ms : List (String × Json)} {room n : Nat}

/-- One step after another. -/
inductive Steps {σ β : Type} (step : σ → β → σ → Prop) : σ → List β → σ → Prop
  | nil {a : σ} : Steps step a [] a
  | cons {a b c : σ} {x : β} {xs : List β} (h : step a x b) (hs : Steps step b xs c) :
      Steps step a (x :: xs) c

theorem steps_nil_iff {β : Type} {step : σ → β → σ → Prop} : Steps step state [] state' ↔ state' = state := by
  constructor
  · rintro ⟨⟩
    rfl
  · rintro rfl
    exact .nil

theorem steps_cons_iff {β : Type} {step : σ → β → σ → Prop} {x : β} {xs : List β} :
    Steps step state (x :: xs) state' ↔ ∃ b, step state x b ∧ Steps step b xs state' := by
  constructor
  · intro h
    cases h with
    | cons h hs => exact ⟨_, h, hs⟩
  · rintro ⟨b, h, hs⟩
    exact .cons h hs

/-- **Only members are read** behind their keys, and each is a step from what is known before it to what
    is known behind it. -/
def MemberReadsOnly (member : σ → List LiteralUnit → Reader σ)
    (step : σ → String × Json → σ → Prop) : Prop :=
  ∀ state key chars s state' rest, meaning? key = some chars → SurrogatesPaired s →
    member state key s = .ok (state', rest) →
      SurrogatesPaired rest ∧ ∃ a b v t, IsSpaces a ∧ IsSpaces b ∧ Writes v t ∧
        step state (String.ofList chars, v) state' ∧ s = a ++ ':' :: (b ++ (t ++ rest))

/-- **All members are read** behind their keys that are a step, with values of at most `n` characters. -/
def MemberReadsAll (n : Nat) (member : σ → List LiteralUnit → Reader σ)
    (step : σ → String × Json → σ → Prop) : Prop :=
  ∀ state key chars a b v t rest state', meaning? key = some chars → IsSpaces a → IsSpaces b →
    Writes v t → t.length ≤ n → step state (String.ofList chars, v) state' → Stops goesOn rest →
      member state key (a ++ ':' :: (b ++ (t ++ rest))) = .ok (state', rest)

theorem readMembers_eq_ok_iff :
    readMembers member (room + 1) state s = .ok (state', rest) ↔
      ∃ s₁ key s₂ state₁ s₃, skipSpace s = '"' :: s₁ ∧ units? s₁ = some (key, s₂) ∧
        member state key s₂ = .ok (state₁, s₃) ∧
          ((∃ s₄, skipSpace s₃ = ',' :: s₄ ∧ readMembers member room state₁ s₄ = .ok (state', rest)) ∨
            skipSpace s₃ = '}' :: rest ∧ state' = state₁) := by
  rw [readMembers.eq_def]
  dsimp only
  constructor
  · intro h
    split at h
    · rename_i s₁ hs₁
      split at h
      · cases h
      · rename_i key s₂ hkey
        obtain ⟨⟨state₁, s₃⟩, hmember, h⟩ := bind_eq_ok_iff.mp h
        refine ⟨s₁, key, s₂, state₁, s₃, hs₁, hkey, hmember, ?_⟩
        dsimp only at h
        split at h
        · rename_i s₄ hs₄
          exact Or.inl ⟨s₄, hs₄, h⟩
        · rename_i s₄ hs₄
          cases h
          exact Or.inr ⟨hs₄, rfl⟩
        · cases h
    · cases h
  · rintro ⟨s₁, key, s₂, state₁, s₃, hs₁, hkey, hmember, hnext⟩
    simp only [hs₁, hkey]
    refine bind_eq_ok_iff.mpr ⟨(state₁, s₃), hmember, ?_⟩
    rcases hnext with ⟨s₄, hs₄, h⟩ | ⟨hs₄, rfl⟩
    · simp only [hs₄, h]
    · simp only [hs₄]
      rfl

theorem readObject_eq_ok_iff :
    readObject member state s = .ok (state', rest) ↔
      skipSpace s = '}' :: rest ∧ state' = state ∨
        (∀ r, skipSpace s ≠ '}' :: r) ∧
          readMembers member (skipSpace s).length state (skipSpace s) = .ok (state', rest) := by
  unfold readObject
  constructor
  · intro h
    split at h
    · rename_i hs
      cases h
      exact Or.inl ⟨hs, rfl⟩
    · rename_i hs
      exact Or.inr ⟨hs, h⟩
  · rintro (⟨hs, rfl⟩ | ⟨hs, h⟩)
    · simp only [hs]
    · split
      · rename_i r hr
        exact absurd hr (hs r)
      · exact h

/-- The members of an object that has some. -/
theorem MemberReadsOnly.readMembers (hmember : MemberReadsOnly member step) (hs : SurrogatesPaired s)
    (h : readMembers member room state s = .ok (state', rest)) :
    SurrogatesPaired rest ∧ ∃ m ms t, Separated (WritesMember Writes) (m :: ms) t ∧
      Steps step state (m :: ms) state' ∧ s = t ++ '}' :: rest := by
  induction room generalizing s state with
  | zero => cases h
  | succ room ih =>
      obtain ⟨s₁, key, s₂, state₁, s₃, hs₁, hkey, hread, hnext⟩ := readMembers_eq_ok_iff.mp h
      obtain ⟨hpaired, w, hw, rfl⟩ := hs.behind hs₁ (by decide)
      obtain ⟨hs₂, chars, k, hk, hchars, rfl⟩ := hpaired.exists_writesChars hkey
      obtain ⟨hs₃, a, b, v, t, ha, hb, ht, hstep, rfl⟩ := hmember _ _ _ _ _ _ hchars hs₂ hread
      have hwrites : WritesMember Writes (String.ofList chars, v)
          ('"' :: (k ++ '"' :: (a ++ ':' :: (b ++ t)))) := .mk (by rwa [String.toList_ofList]) ha hb ht
      rcases hnext with ⟨s₄, hcomma, hmembers⟩ | ⟨hclose, rfl⟩
      · obtain ⟨hs₄, b', hb', rfl⟩ := hs₃.behind hcomma (by decide)
        obtain ⟨hrest, m, ms, ts, hts, hsteps, rfl⟩ := ih hs₄ hmembers
        exact ⟨hrest, _, _, _, .cons hw hwrites hb' hts, .cons hstep hsteps, by simp⟩
      · obtain ⟨hrest, b', hb', rfl⟩ := hs₃.behind hclose (by decide)
        exact ⟨hrest, _, [], _, .single hw hwrites hb', .cons hstep .nil, by simp⟩

/-- **From members to objects.** -/
theorem MemberReadsOnly.readObject (hmember : MemberReadsOnly member step) (hs : SurrogatesPaired s)
    (h : readObject member state s = .ok (state', rest)) :
    SurrogatesPaired rest ∧ ∃ ms t, Listed (WritesMember Writes) ms t ∧
      Steps step state ms state' ∧ s = t ++ '}' :: rest := by
  rcases readObject_eq_ok_iff.mp h with ⟨hclose, rfl⟩ | ⟨-, hmembers⟩
  · obtain ⟨hrest, w, hw, rfl⟩ := hs.behind hclose (by decide)
    exact ⟨hrest, [], w, .empty hw, .nil, rfl⟩
  · obtain ⟨w, hw, hskip⟩ := eq_append_skipSpace s
    obtain ⟨hrest, m, ms, t, ht, hsteps, heq⟩ := hmember.readMembers hs.skipSpace hmembers
    refine ⟨hrest, m :: ms, w ++ t, .items (ht.prepend hw), hsteps, ?_⟩
    rw [hskip, heq, List.append_assoc]

/-- The text of a member begins with a quote. -/
theorem WritesMember.exists_cons {m : String × Json} (h : WritesMember Writes m t) :
    ∃ c tail, t = c :: tail ∧ isSpace c = false ∧ c = '"' := by
  obtain ⟨-, -, -, -⟩ := h
  exact ⟨'"', _, rfl, by decide, rfl⟩

/-- The key of a member is found, and the rest of the member is read behind it. -/
theorem MemberReadsAll.exists_key {m : String × Json} (hmember : MemberReadsAll n member step)
    (hw : IsSpaces w) (ht : WritesMember Writes m t) (hn : t.length ≤ n) (hstep : step state m state')
    (hrest : Stops goesOn rest) :
    ∃ s₁ key s₂, skipSpace (w ++ (t ++ rest)) = '"' :: s₁ ∧ units? s₁ = some (key, s₂) ∧
      member state key s₂ = .ok (state', rest) := by
  obtain @⟨key, v, k, a, b, t, hkey, ha, hb, hv⟩ := ht
  simp only [List.length_append, List.length_cons] at hn
  obtain ⟨us, hus, hmeaning⟩ := literal?_eq_some_iff.mp
    (hkey.literal?_append (a ++ ':' :: (b ++ (t ++ rest))))
  refine ⟨_, us, _, ?_, hus, ?_⟩
  · simp only [List.append_assoc, List.cons_append]
    exact skipSpace_append_cons hw (by decide)
  · exact hmember _ _ _ _ _ _ _ _ _ hmeaning ha hb hv (by omega) (by rwa [String.ofList_toList]) hrest

/-- The members of an object that has some, where there is room for all of them. -/
theorem MemberReadsAll.readMembers (hmember : MemberReadsAll n member step)
    (hms : Separated (WritesMember Writes) ms t) (hn : t.length ≤ n) (hroom : t.length ≤ room)
    (hsteps : Steps step state ms state') :
    readMembers member room state (t ++ '}' :: rest) = .ok (state', rest) := by
  induction hms generalizing state room with
  | @single m w t b hw ht hb =>
      obtain ⟨state₁, hstep, hnil⟩ := steps_cons_iff.mp hsteps
      cases steps_nil_iff.mp hnil
      obtain ⟨c, tail, htail, -⟩ := ht.exists_cons
      have hlength : t.length = tail.length + 1 := by rw [htail, List.length_cons]
      simp only [List.length_append] at hn hroom
      obtain ⟨room, rfl⟩ : ∃ r, room = r + 1 := ⟨room - 1, by omega⟩
      have hstop : Stops goesOn (b ++ '}' :: rest) := hb.stops_goesOn_cons (by decide)
      obtain ⟨s₁, key, s₂, hs₁, hkey, hread⟩ := hmember.exists_key hw ht (by omega) hstep hstop
      refine readMembers_eq_ok_iff.mpr ⟨s₁, key, s₂, _, b ++ '}' :: rest, ?_, hkey, hread,
        Or.inr ⟨skipSpace_append_cons hb (by decide), rfl⟩⟩
      rw [← hs₁, List.append_assoc, List.append_assoc]
  | @cons m ms w t b ts hw ht hb hts ih =>
      obtain ⟨state₁, hstep, hsteps'⟩ := steps_cons_iff.mp hsteps
      simp only [List.length_append, List.length_cons] at hn hroom
      obtain ⟨room, rfl⟩ : ∃ r, room = r + 1 := ⟨room - 1, by omega⟩
      have hstop : Stops goesOn (b ++ ',' :: (ts ++ '}' :: rest)) := hb.stops_goesOn_cons (by decide)
      obtain ⟨s₁, key, s₂, hs₁, hkey, hread⟩ := hmember.exists_key hw ht (by omega) hstep hstop
      refine readMembers_eq_ok_iff.mpr ⟨s₁, key, s₂, _, b ++ ',' :: (ts ++ '}' :: rest), ?_, hkey, hread,
        Or.inl ⟨_, skipSpace_append_cons hb (by decide), ih (by omega) (by omega) hsteps'⟩⟩
      rw [← hs₁]
      simp only [List.append_assoc, List.cons_append]

/-- **From members to objects.** -/
theorem MemberReadsAll.readObject (hmember : MemberReadsAll n member step)
    (hms : Listed (WritesMember Writes) ms t) (hn : t.length ≤ n)
    (hsteps : Steps step state ms state') :
    readObject member state (t ++ '}' :: rest) = .ok (state', rest) := by
  rw [readObject_eq_ok_iff]
  cases hms with
  | empty hw =>
      exact Or.inl ⟨skipSpace_append_cons hw (by decide), steps_nil_iff.mp hsteps⟩
  | items h =>
      obtain ⟨w, c, tail, hw, rfl, hc, rfl, h'⟩ := h.exists_trimmed fun _ _ => WritesMember.exists_cons
      have hskip : skipSpace (w ++ '"' :: tail ++ '}' :: rest) = '"' :: tail ++ '}' :: rest := by
        rw [List.append_assoc, List.cons_append, skipSpace_append_cons hw hc]
      simp only [List.length_append] at hn
      rw [hskip]
      refine Or.inr ⟨fun r hr => absurd (List.cons.inj hr).1 (by decide),
        hmember.readMembers h' (by omega) ?_ hsteps⟩
      simp only [List.length_append]
      omega

end Objects

end MethodSig.Json
