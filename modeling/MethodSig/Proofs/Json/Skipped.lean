import MethodSig.Proofs.Json.Values

/-!
# `Proofs.Json.Skipped` — values that nobody asks for

Skipping drops a value, but it reads it: what it takes are exactly the texts of values, of any kind and
nested to any depth (`readsOnly_skipValue`, `readsAll_skipValue`). The depth that is counted down never
runs out, since a value within another has a shorter text.
-/

namespace MethodSig.Json

variable {α : Type} {read : Reader α} {means : α → Json → Prop} {s t rest : List Char} {n : Nat}

/-! ## Behind a colon -/

theorem readColon_eq_ok_iff : readColon s = .ok t ↔ skipSpace s = ':' :: t := by
  unfold readColon
  constructor
  · intro h
    split at h
    · rename_i hs
      cases h
      exact hs
    · cases h
  · intro h
    rw [h]
    rfl

theorem ReadsOnly.behindColon {a : α} (hread : ReadsOnly read means) (hs : SurrogatesPaired s)
    (h : (readColon s >>= read) = .ok (a, rest)) :
    SurrogatesPaired rest ∧ ∃ b w v t, IsSpaces b ∧ IsSpaces w ∧ Writes v t ∧ means a v ∧
      s = b ++ ':' :: (w ++ (t ++ rest)) := by
  obtain ⟨s₁, hcolon, hvalue⟩ := bind_eq_ok_iff.mp h
  obtain ⟨hs', b, hb, rfl⟩ := hs.behind (readColon_eq_ok_iff.mp hcolon) (by decide)
  obtain ⟨hrest, w, v, t, hw, ht, ha, rfl⟩ := hread _ _ _ hs' hvalue
  exact ⟨hrest, b, w, v, t, hb, hw, ht, ha, rfl⟩

theorem ReadsAll.behindColon {a : α} {b w : List Char} {v : Json} (hread : ReadsAll n read means)
    (hb : IsSpaces b) (hw : IsSpaces w) (ht : Writes v t) (hn : t.length ≤ n) (ha : means a v)
    (hrest : Stops goesOn rest) :
    (readColon (b ++ ':' :: (w ++ (t ++ rest))) >>= read) = .ok (a, rest) :=
  bind_eq_ok_iff.mpr ⟨w ++ (t ++ rest),
    readColon_eq_ok_iff.mpr (skipSpace_append_cons hb (by decide)), hread w v t rest a hw ht hn ha hrest⟩

/-! ## Scalars -/

/-- **What is passed over as a scalar**: a string, one of the three words, or a number. -/
theorem skipScalar_eq_ok_iff :
    skipScalar s = .ok ((), rest) ↔
      (∃ us t, s = '"' :: t ∧ units? t = some (us, rest)) ∨
        (∃ word ∈ ["null", "true", "false"], s = word.toList ++ rest) ∨
        ∃ l, number? s = some (l, rest) := by
  -- a word that is found at the front is followed by what is left
  have hword : ∀ {word : String} (k : Nat), word.toList.isPrefixOf s = true →
      word.toList.length = k → s = word.toList ++ s.drop k := by
    rintro word k hword rfl
    obtain ⟨r, rfl⟩ := List.isPrefixOf_iff_prefix.mp hword
    rw [List.drop_left]
  constructor
  · intro h
    cases s with
    | nil => cases h
    | cons c s =>
        rw [skipScalar] at h
        split_ifs at h with hstring hnull htrue hfalse
        · split at h
          · rename_i us r hus
            cases h
            exact Or.inl ⟨us, s, by rw [hstring], hus⟩
          · cases h
        · cases h
          exact Or.inr (Or.inl ⟨"null", by simp, hword 4 hnull rfl⟩)
        · cases h
          exact Or.inr (Or.inl ⟨"true", by simp, hword 4 htrue rfl⟩)
        · cases h
          exact Or.inr (Or.inl ⟨"false", by simp, hword 5 hfalse rfl⟩)
        · split at h
          · rename_i l r hnumber
            cases h
            exact Or.inr (Or.inr ⟨l, hnumber⟩)
          · cases h
  · rintro (⟨us, t, rfl, hus⟩ | ⟨word, hmem, rfl⟩ | ⟨l, hl⟩)
    · rw [skipScalar, if_pos rfl, hus]
    · simp only [List.mem_cons, List.not_mem_nil, or_false] at hmem
      rcases hmem with rfl | rfl | rfl <;> rfl
    · cases s with
      | nil => cases hl
      | cons c s =>
          have hquote : '"' ≠ c := ne_of_number? hl (by decide) (by decide)
          have hn : 'n' ≠ c := ne_of_number? hl (by decide) (by decide)
          have ht : 't' ≠ c := ne_of_number? hl (by decide) (by decide)
          have hf : 'f' ≠ c := ne_of_number? hl (by decide) (by decide)
          rw [skipScalar, if_neg hquote.symm, if_neg (by simp [hn]), if_neg (by simp [ht]),
            if_neg (by simp [hf]), hl]

/-- What is passed over as a scalar is the text of a value. -/
theorem exists_writes_of_skipScalar (hs : SurrogatesPaired s) (h : skipScalar s = .ok ((), rest)) :
    SurrogatesPaired rest ∧ ∃ v t, Writes v t ∧ s = t ++ rest := by
  rcases skipScalar_eq_ok_iff.mp h with ⟨us, t, rfl, hus⟩ | ⟨word, hmem, rfl⟩ | ⟨l, hl⟩
  · obtain ⟨hrest, cs, t, hcs, -, rfl⟩ := (hs.tail (by decide)).exists_writesChars hus
    have hstring : WritesChars (String.ofList cs).toList t := by rwa [String.toList_ofList]
    exact ⟨hrest, _, _, .string hstring, by simp⟩
  · simp only [List.mem_cons, List.not_mem_nil, or_false] at hmem
    rcases hmem with rfl | rfl | rfl
    · exact ⟨hs.of_append (by decide), _, _, .null, rfl⟩
    · exact ⟨hs.of_append (by decide), _, _, .bool (b := true), rfl⟩
    · exact ⟨hs.of_append (by decide), _, _, .bool (b := false), rfl⟩
  · obtain ⟨t, ht, rfl⟩ := exists_isNumber_of_number? hl
    have hnumber : IsNumber (String.ofList t).toList := by rwa [String.toList_ofList]
    exact ⟨hs.of_append ht.backslash_notMem, _, _, .number hnumber, by rw [String.toList_ofList]⟩

/-! ## Any value -/

/-- A result that says nothing about the value. -/
def Dropped (_ : Unit) (_ : Json) : Prop := True

/-- Behind a key any value is a member that changes nothing. -/
theorem ReadsOnly.member {read : Reader Unit} (hread : ReadsOnly read Dropped) :
    MemberReadsOnly (fun (_ : Unit) _ s => readColon s >>= read) (fun _ _ _ => True) := by
  intro _ _ _ s _ rest _ hs h
  obtain ⟨hrest, b, w, v, t, hb, hw, ht, -, hs⟩ := hread.behindColon hs h
  exact ⟨hrest, b, w, v, t, hb, hw, ht, trivial, hs⟩

theorem ReadsAll.member {read : Reader Unit} (hread : ReadsAll n read Dropped) :
    MemberReadsAll n (fun (_ : Unit) _ s => readColon s >>= read) (fun _ _ _ => True) :=
  fun _ _ _ _ _ _ _ _ _ _ ha hb hv hn _ hrest => hread.behindColon ha hb hv hn trivial hrest

theorem readsOnly_skipWithin (depth : Nat) : ReadsOnly (skipWithin depth) Dropped := by
  induction depth with
  | zero =>
      intro s _ rest _ h
      cases h
  | succ depth ih =>
      intro s u rest hs h
      rw [skipWithin] at h
      split at h
      · rename_i s₁ hs₁
        obtain ⟨hs', w, hw, hskip⟩ := hs.behind hs₁ (by decide)
        obtain ⟨⟨us, r⟩, harray, heq⟩ := bind_eq_ok_iff.mp h
        cases heq
        obtain ⟨hrest, vs, t, ht, -, rfl⟩ := ih.readArray hs' harray
        exact ⟨hrest, w, _, _, hw, .array ht, trivial, by simp [hskip]⟩
      · rename_i s₁ hs₁
        obtain ⟨hs', w, hw, hskip⟩ := hs.behind hs₁ (by decide)
        obtain ⟨hrest, ms, t, ht, -, rfl⟩ := ih.member.readObject hs' h
        exact ⟨hrest, w, _, _, hw, .object ht, trivial, by simp [hskip]⟩
      · obtain ⟨w, hw, hskip⟩ := eq_append_skipSpace s
        obtain ⟨hrest, v, t, ht, heq⟩ := exists_writes_of_skipScalar hs.skipSpace h
        exact ⟨hrest, w, v, t, hw, ht, trivial, by rw [← heq, ← hskip]⟩

theorem readsAll_skipWithin (depth : Nat) : ReadsAll depth (skipWithin depth) Dropped := by
  induction depth with
  | zero =>
      intro w v t rest _ _ ht hn
      obtain ⟨c, tail, rfl, -⟩ := ht.exists_cons
      exact absurd hn (by simp)
  | succ depth ih =>
      intro w v t rest u hw ht hn _ hrest
      rw [skipWithin, ht.skipSpace_append hw]
      cases ht with
      | null => rfl
      | @bool b => cases b <;> rfl
      | number h =>
          obtain ⟨c, tail, hcons, hc⟩ := h.exists_cons
          split
          · rename_i s heq
            rw [hcons] at heq
            cases heq
            exact absurd hc (by decide)
          · rename_i s heq
            rw [hcons] at heq
            cases heq
            exact absurd hc (by decide)
          · exact skipScalar_eq_ok_iff.mpr (Or.inr (Or.inr (h.number?_append hrest)))
      | @string str t h =>
          obtain ⟨us, hus, -⟩ := literal?_eq_some_iff.mp (h.literal?_append rest)
          have htext : '"' :: (t ++ ['"']) ++ rest = '"' :: (t ++ '"' :: rest) := by simp
          have hskip : skipScalar ('"' :: (t ++ '"' :: rest)) = .ok ((), rest) :=
            skipScalar_eq_ok_iff.mpr (Or.inl ⟨us, _, rfl, hus⟩)
          rw [htext]
          exact hskip
      | @array items t ht =>
          have htext : '[' :: (t ++ [']']) ++ rest = '[' :: (t ++ ']' :: rest) := by simp
          have hdropped : List.Forall₂ Dropped (items.map fun _ => ()) items :=
            List.forall₂_map_left_iff.mpr (List.forall₂_same.mpr fun _ _ => trivial)
          simp only [List.length_cons, List.length_append] at hn
          rw [htext]
          exact bind_eq_ok_iff.mpr ⟨_, ih.readArray ht (by omega) hdropped, rfl⟩
      | @object members t ht =>
          have htext : '{' :: (t ++ ['}']) ++ rest = '{' :: (t ++ '}' :: rest) := by simp
          have hsteps : ∀ ms, Steps (fun (_ : Unit) (_ : String × Json) _ => True) () ms () := by
            intro ms
            induction ms with
            | nil => exact .nil
            | cons m ms ih => exact .cons trivial ih
          simp only [List.length_cons, List.length_append] at hn
          rw [htext]
          exact ih.member.readObject ht (by omega) (hsteps members)

/-- **Only values are passed over.** -/
theorem readsOnly_skipValue : ReadsOnly skipValue Dropped :=
  fun s u rest hs h => readsOnly_skipWithin (s.length + 1) s u rest hs h

/-- **Any value is passed over.** -/
theorem readsAll_skipValue (n : Nat) : ReadsAll n skipValue Dropped := by
  intro w v t rest u hw ht _ _ hrest
  have hdepth : t.length ≤ (w ++ (t ++ rest)).length + 1 := by
    simp only [List.length_append]
    omega
  exact readsAll_skipWithin _ w v t rest u hw ht hdepth trivial hrest

end MethodSig.Json
