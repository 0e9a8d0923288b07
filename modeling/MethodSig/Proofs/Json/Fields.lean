import MethodSig.Json.Signature
import MethodSig.Proofs.Json.Skipped

/-!
# `Proofs.Json.Fields` — records as objects and as arrays

A record is given by an object of its fields under their names, or by an array of its fields in order.

In an object each field is filled by the one member that has its name (`steps_none_iff`): a run over the
members fills a field exactly if one member has the name, and leaves it open exactly if none has. The
fields of a record do not look at each other, so a run over the members of a record is one such run for
each of its fields.

In an array the fields are read one behind the other. `Behind vs s rest` says that behind an element come
the elements `vs` and the closing bracket.

Last, a whole text is read if it is the text of one document (`readAll_eq_ok_iff_isDocument`).
-/

namespace MethodSig.Json

variable {α : Type} {read : Reader α} {means : α → Json → Prop} {a : α} {o o' : Option α}
  {s t w rest : List Char} {name key : String} {v : Json} {vs : List Json} {ms : List (String × Json)}
  {n : Nat}

/-! ## Strings -/

theorem readString_eq_ok_iff {str : String} :
    readString s = .ok (str, rest) ↔
      ∃ s₁, skipSpace s = '"' :: s₁ ∧ literal? s₁ = some (str.toList, rest) := by
  unfold readString
  constructor
  · intro h
    split at h
    · rename_i s₁ hs₁
      split at h
      · rename_i chars r hchars
        cases h
        exact ⟨s₁, hs₁, by rw [hchars, String.toList_ofList]⟩
      · cases h
    · cases h
  · rintro ⟨s₁, hs₁, hchars⟩
    simp only [hs₁, hchars, String.ofList_toList]

/-- A text means the string that it is. -/
def IsString (str : String) (v : Json) : Prop := v = .string str

theorem readsOnly_readString : ReadsOnly readString IsString := by
  intro s str rest hs h
  obtain ⟨s₁, hs₁, hchars⟩ := readString_eq_ok_iff.mp h
  obtain ⟨hs', w, hw, rfl⟩ := hs.behind hs₁ (by decide)
  obtain ⟨us, hus, hmeaning⟩ := literal?_eq_some_iff.mp hchars
  obtain ⟨hrest, cs, t, ht, hcs, rfl⟩ := hs'.exists_writesChars hus
  rw [hmeaning] at hcs
  cases hcs
  exact ⟨hrest, w, _, _, hw, .string ht, rfl, by simp⟩

theorem readsAll_readString : ReadsAll n readString IsString := by
  rintro w v t rest str hw ht - rfl -
  rw [readString_eq_ok_iff, ht.skipSpace_append hw]
  cases ht with
  | @string _ t ht => exact ⟨t ++ '"' :: rest, by simp, ht.literal?_append rest⟩

/-! ## Members with a name -/

/-- The values of the members with the given key. -/
def valuesOf (key : String) (members : List (String × Json)) : List Json :=
  (members.filter fun m => m.1 = key).map Prod.snd

@[simp] theorem valuesOf_nil : valuesOf key [] = [] := rfl

theorem valuesOf_cons_self : valuesOf key ((key, v) :: ms) = v :: valuesOf key ms := by
  simp [valuesOf]

theorem valuesOf_cons_of_ne (h : key ≠ name) : valuesOf name ((key, v) :: ms) = valuesOf name ms := by
  simp [valuesOf, h]

/-- What is given of a value that may be given once. -/
inductive Given {α : Type} (means : α → Json → Prop) : Option α → List Json → Prop
  | absent : Given means none []
  | once {a : α} {v : Json} (h : means a v) : Given means (some a) [v]

/-- The value that is given, once, or the default where none is. -/
inductive AtMostOne {α : Type} (means : α → Json → Prop) (default : α) : α → List Json → Prop
  | absent : AtMostOne means default default []
  | given {a : α} {v : Json} (h : means a v) : AtMostOne means default a [v]

theorem Given.atMostOne {default : α} (h : Given means o vs) :
    AtMostOne means default (o.getD default) vs := by
  cases h with
  | absent => exact .absent
  | once h => exact .given h

theorem AtMostOne.exists_given {default : α} (h : AtMostOne means default a vs) :
    ∃ o, Given means o vs ∧ o.getD default = a := by
  cases h with
  | absent => exact ⟨none, .absent, rfl⟩
  | given h => exact ⟨some _, .once h, rfl⟩

theorem given_some_iff : Given means (some a) vs ↔ ∃ v, vs = [v] ∧ means a v := by
  constructor
  · rintro ⟨⟩
    exact ⟨_, rfl, ‹_›⟩
  · rintro ⟨v, rfl, h⟩
    exact .once h

theorem required_eq_ok_iff : required name o = .ok a ↔ o = some a := by
  cases o <;> simp [required]

/-! ## A field over the members of an object -/

/-- What a member does to a field: the first one with its name fills it, a second one has no place, and
    any other leaves it as it is. -/
inductive FieldStep {α : Type} (name : String) (means : α → Json → Prop) :
    Option α → String × Json → Option α → Prop
  | given {a : α} {v : Json} (h : means a v) : FieldStep name means none (name, v) (some a)
  | other {o : Option α} {key : String} {v : Json} (h : key ≠ name) : FieldStep name means o (key, v) o

theorem fieldStep_of_ne_iff (h : key ≠ name) : FieldStep name means o (key, v) o' ↔ o' = o := by
  constructor
  · intro hstep
    cases hstep with
    | given => exact absurd rfl h
    | other => rfl
  · rintro rfl
    exact .other h

theorem fieldStep_self_iff :
    FieldStep name means o (name, v) o' ↔ o = none ∧ ∃ a, o' = some a ∧ means a v := by
  constructor
  · intro hstep
    cases hstep with
    | given h => exact ⟨rfl, _, rfl, h⟩
    | other h => exact absurd rfl h
  · rintro ⟨rfl, a, rfl, h⟩
    exact .given h

/-- A field that is filled stays so exactly if its name does not come up again. -/
theorem steps_some_iff :
    Steps (FieldStep name means) (some a) ms o ↔ valuesOf name ms = [] ∧ o = some a := by
  induction ms with
  | nil => simp [steps_nil_iff]
  | cons m ms ih =>
      obtain ⟨key, v⟩ := m
      rw [steps_cons_iff]
      by_cases hkey : key = name
      · subst hkey
        simp [fieldStep_self_iff, valuesOf_cons_self]
      · simp only [fieldStep_of_ne_iff hkey, exists_eq_left, ih, valuesOf_cons_of_ne hkey]

/-- **A field is filled by the one member that has its name**, and left open if there is none. -/
theorem steps_none_iff : Steps (FieldStep name means) none ms o ↔ Given means o (valuesOf name ms) := by
  induction ms with
  | nil =>
      rw [steps_nil_iff, valuesOf_nil]
      constructor
      · rintro rfl
        exact .absent
      · rintro ⟨⟩
        rfl
  | cons m ms ih =>
      obtain ⟨key, v⟩ := m
      rw [steps_cons_iff]
      by_cases hkey : key = name
      · -- the member fills the field, so the others must leave it as it is
        subst hkey
        rw [valuesOf_cons_self]
        constructor
        · rintro ⟨_, hstep, hs⟩
          obtain ⟨-, a, rfl, h⟩ := fieldStep_self_iff.mp hstep
          obtain ⟨hnil, rfl⟩ := steps_some_iff.mp hs
          rw [hnil]
          exact .once h
        · intro h
          -- the values of the others are no variable, so they are named before the cases
          generalize hnil : valuesOf key ms = others at h
          cases h with
          | once h => exact ⟨_, .given h, steps_some_iff.mpr ⟨hnil, rfl⟩⟩
      · simp only [fieldStep_of_ne_iff hkey, exists_eq_left, ih, valuesOf_cons_of_ne hkey]

theorem readField_eq_ok_iff :
    readField name o read s = .ok (o', rest) ↔
      o = none ∧ ∃ a, o' = some a ∧ (readColon s >>= read) = .ok (a, rest) := by
  unfold readField
  cases o with
  | some a => simp [bind, Except.bind]
  | none =>
      -- without an earlier value what remains is one step after another
      simp only [Option.isSome_none, Bool.false_eq_true, if_false, true_and]
      change (readColon s >>= fun s => read s >>= fun p => pure (some p.1, p.2)) = _ ↔ _
      simp only [bind_eq_ok_iff]
      constructor
      · rintro ⟨s₁, hs₁, ⟨a, r⟩, ha, heq⟩
        cases heq
        exact ⟨a, rfl, s₁, hs₁, ha⟩
      · rintro ⟨a, rfl, s₁, hs₁, ha⟩
        exact ⟨s₁, hs₁, (a, rest), ha, rfl⟩

/-- A known field is read only from its value. -/
theorem ReadsOnly.readField (hread : ReadsOnly read means) (hs : SurrogatesPaired s)
    (h : readField name o read s = .ok (o', rest)) :
    SurrogatesPaired rest ∧ ∃ b w v t, IsSpaces b ∧ IsSpaces w ∧ Writes v t ∧
      FieldStep name means o (name, v) o' ∧ s = b ++ ':' :: (w ++ (t ++ rest)) := by
  obtain ⟨rfl, a, rfl, hvalue⟩ := readField_eq_ok_iff.mp h
  obtain ⟨hrest, b, w, v, t, hb, hw, ht, ha, hs⟩ := hread.behindColon hs hvalue
  exact ⟨hrest, b, w, v, t, hb, hw, ht, .given ha, hs⟩

/-- A known field that is still open is read from any value that it can have. -/
theorem ReadsAll.readField {b : List Char} (hread : ReadsAll n read means) (hb : IsSpaces b)
    (hw : IsSpaces w) (ht : Writes v t) (hn : t.length ≤ n) (hstep : FieldStep name means o (name, v) o')
    (hrest : Stops goesOn rest) :
    readField name o read (b ++ ':' :: (w ++ (t ++ rest))) = .ok (o', rest) := by
  obtain ⟨rfl, a, rfl, ha⟩ := fieldStep_self_iff.mp hstep
  exact readField_eq_ok_iff.mpr ⟨rfl, a, rfl, hread.behindColon hb hw ht hn ha hrest⟩

/-- A member that fills a field of what is known so far. -/
theorem ReadsOnly.member_field {σ : Type} {step : String × Json → σ → Prop} {state : σ}
    (set : Option α → σ) (hread : ReadsOnly read means) (hs : SurrogatesPaired s)
    (h : (MethodSig.readField name o read s >>= fun p => pure (set p.1, p.2)) = .ok (state, rest))
    (hstep : ∀ v o', FieldStep name means o (name, v) o' → step (name, v) (set o')) :
    SurrogatesPaired rest ∧ ∃ a b v t, IsSpaces a ∧ IsSpaces b ∧ Writes v t ∧ step (name, v) state ∧
      s = a ++ ':' :: (b ++ (t ++ rest)) := by
  obtain ⟨⟨o', r⟩, hfield, heq⟩ := bind_eq_ok_iff.mp h
  cases heq
  obtain ⟨hrest, a, b, v, t, ha, hb, ht, hfill, hs⟩ := hread.readField hs hfield
  exact ⟨hrest, a, b, v, t, ha, hb, ht, hstep v o' hfill, hs⟩

theorem ReadsAll.member_field {σ : Type} {state : σ} {b : List Char} (set : Option α → σ)
    (hread : ReadsAll n read means) (hb : IsSpaces b) (hw : IsSpaces w) (ht : Writes v t)
    (hn : t.length ≤ n) (hstep : FieldStep name means o (name, v) o') (hrest : Stops goesOn rest)
    (hset : set o' = state) :
    (MethodSig.readField name o read (b ++ ':' :: (w ++ (t ++ rest))) >>= fun p => pure (set p.1, p.2)) =
      .ok (state, rest) :=
  bind_eq_ok_iff.mpr ⟨(o', rest), hread.readField hb hw ht hn hstep hrest, by rw [← hset]; rfl⟩

/-! ## Elements in place of fields -/

/-- Behind an element of an array come the elements `vs` and the closing bracket, and then `rest`. -/
def Behind : List Json → List Char → List Char → Prop
  | [], s, rest => ∃ w, IsSpaces w ∧ s = w ++ ']' :: rest
  | v :: vs, s, rest => ∃ b w t s', IsSpaces b ∧ IsSpaces w ∧ Writes v t ∧ Behind vs s' rest ∧
      s = b ++ ',' :: (w ++ (t ++ s'))

/-- Behind the bracket that opens an array come the elements `vs` and the closing bracket, and then
    `rest`. -/
def Within (vs : List Json) (s rest : List Char) : Prop :=
  ∃ t, Listed Writes vs t ∧ s = t ++ ']' :: rest

theorem Behind.stops_goesOn (h : Behind vs s rest) : Stops goesOn s := by
  cases vs with
  | nil =>
      obtain ⟨w, hw, rfl⟩ := h
      exact hw.stops_goesOn_cons (by decide)
  | cons v vs =>
      obtain ⟨b, w, t, s', hb, -, -, -, rfl⟩ := h
      exact hb.stops_goesOn_cons (by decide)

theorem separated_iff_behind :
    (∃ t, Separated Writes (v :: vs) t ∧ s = t ++ ']' :: rest) ↔
      ∃ w t s', IsSpaces w ∧ Writes v t ∧ Behind vs s' rest ∧ s = w ++ (t ++ s') := by
  induction vs generalizing v s with
  | nil =>
      constructor
      · rintro ⟨_, @⟨_, w, t, b, hw, ht, hb⟩ | ⟨_, _, _, ⟨⟩⟩, rfl⟩
        exact ⟨w, t, b ++ ']' :: rest, hw, ht, ⟨b, hb, rfl⟩, by simp⟩
      · rintro ⟨w, t, s', hw, ht, ⟨b, hb, rfl⟩, rfl⟩
        exact ⟨_, .single hw ht hb, by simp⟩
  | cons v' vs ih =>
      constructor
      · rintro ⟨_, ⟨⟩ | @⟨_, _, w, t, b, ts, hw, ht, hb, hts⟩, rfl⟩
        obtain ⟨w', t', s', hw', ht', hbehind, heq⟩ := ih.mp ⟨ts, hts, rfl⟩
        exact ⟨w, t, b ++ ',' :: (ts ++ ']' :: rest), hw, ht, ⟨b, w', t', s', hb, hw', ht', hbehind,
          by rw [heq]⟩, by simp⟩
      · rintro ⟨w, t, s', hw, ht, ⟨b, w', t', s'', hb, hw', ht', hbehind, rfl⟩, rfl⟩
        obtain ⟨ts, hts, heq⟩ := ih.mpr ⟨w', t', s'', hw', ht', hbehind, rfl⟩
        exact ⟨_, .cons hw ht hb hts, by simp [heq]⟩

theorem within_cons_iff :
    Within (v :: vs) s rest ↔
      ∃ w t s', IsSpaces w ∧ Writes v t ∧ Behind vs s' rest ∧ s = w ++ (t ++ s') := by
  rw [← separated_iff_behind]
  constructor
  · rintro ⟨t, ⟨⟩ | ⟨h⟩, hs⟩
    exact ⟨t, h, hs⟩
  · rintro ⟨t, h, hs⟩
    exact ⟨t, .items h, hs⟩

theorem readArrayEnd_eq_ok_iff : readArrayEnd s = .ok rest ↔ skipSpace s = ']' :: rest := by
  unfold readArrayEnd
  constructor
  · intro h
    split at h
    · rename_i hs
      cases h
      exact hs
    · cases h
  · intro h
    simp only [h]

theorem requiredElement_eq_ok_iff {index : Nat} {expected : Expected} :
    requiredElement index expected o = .ok a ↔ o = some a := by
  cases o <;> simp [requiredElement]

/-- At the closing bracket there is no element. -/
theorem readElement_of_closing {isFirst : Bool} (h : skipSpace s = ']' :: t) :
    readElement isFirst read s = .ok (none, ']' :: t) := by
  simp only [readElement, h]

/-- The first element stands there at once. -/
theorem readElement_true (h : ∀ r, skipSpace s ≠ ']' :: r) :
    readElement true read s = read (skipSpace s) >>= fun p => .ok (some p.1, p.2) := by
  unfold readElement
  split
  · rename_i hr
    exact absurd hr (h _)
  · rfl

/-- A further element stands behind a comma. -/
theorem readElement_false (h : skipSpace s = ',' :: t) :
    readElement false read s = read t >>= fun p => .ok (some p.1, p.2) := by
  simp only [readElement, h]
  rfl

theorem readElement_false_of_other (hclose : ∀ r, skipSpace s ≠ ']' :: r)
    (hcomma : ∀ r, skipSpace s ≠ ',' :: r) : readElement false read s = .error .malformed := by
  unfold readElement
  split
  · rename_i hr
    exact absurd hr (hclose _)
  · rw [if_neg Bool.false_ne_true]
    dsimp only
    split
    · rename_i hr
      exact absurd hr (hcomma _)
    · rfl

theorem bind_some_eq_ok_iff {x : Except ReadError (α × List Char)} :
    (x >>= fun p => .ok (some p.1, p.2)) = .ok (o, rest) ↔ ∃ a, o = some a ∧ x = .ok (a, rest) := by
  rw [bind_eq_ok_iff]
  constructor
  · rintro ⟨⟨a, r⟩, hx, heq⟩
    cases heq
    exact ⟨a, rfl, hx⟩
  · rintro ⟨a, rfl, hx⟩
    exact ⟨(a, rest), hx, rfl⟩

theorem readElement_true_eq_ok_iff :
    readElement true read s = .ok (o, rest) ↔
      (∃ r, skipSpace s = ']' :: r ∧ o = none ∧ rest = ']' :: r) ∨
        (∀ r, skipSpace s ≠ ']' :: r) ∧ ∃ a, o = some a ∧ read (skipSpace s) = .ok (a, rest) := by
  by_cases hclose : ∃ r, skipSpace s = ']' :: r
  · obtain ⟨r, hr⟩ := hclose
    simp [readElement_of_closing hr, hr, eq_comm]
  · simp only [not_exists] at hclose
    simp [readElement_true hclose, bind_some_eq_ok_iff, hclose]

theorem readElement_false_eq_ok_iff :
    readElement false read s = .ok (o, rest) ↔
      (∃ r, skipSpace s = ']' :: r ∧ o = none ∧ rest = ']' :: r) ∨
        ∃ s₁, skipSpace s = ',' :: s₁ ∧ ∃ a, o = some a ∧ read s₁ = .ok (a, rest) := by
  by_cases hclose : ∃ r, skipSpace s = ']' :: r
  · obtain ⟨r, hr⟩ := hclose
    simp [readElement_of_closing hr, hr, eq_comm]
  · by_cases hcomma : ∃ r, skipSpace s = ',' :: r
    · obtain ⟨r, hr⟩ := hcomma
      simp [readElement_false hr, bind_some_eq_ok_iff, hr]
    · simp only [not_exists] at hclose hcomma
      simp [readElement_false_of_other hclose hcomma, hclose, hcomma]

/-- The first element is read only from a value. -/
theorem ReadsOnly.firstElement (hread : ReadsOnly read means) (hs : SurrogatesPaired s)
    (h : readElement true read s = .ok (some a, rest)) :
    SurrogatesPaired rest ∧
      ∃ v, means a v ∧ ∀ vs r, Behind vs rest r → Within (v :: vs) s r := by
  obtain ⟨_, _, ⟨⟩, _⟩ | ⟨-, _, ⟨⟩, hvalue⟩ := readElement_true_eq_ok_iff.mp h
  obtain ⟨w, hw, hskip⟩ := eq_append_skipSpace s
  obtain ⟨hrest, w', v, t, hw', ht, ha, heq⟩ := hread _ _ _ hs.skipSpace hvalue
  refine ⟨hrest, v, ha, fun vs r hbehind => ?_⟩
  obtain ⟨t', ht', hrest'⟩ := separated_iff_behind.mpr ⟨w', t, rest, hw', ht, hbehind, rfl⟩
  exact ⟨w ++ t', .items (ht'.prepend hw), by rw [hskip, heq, hrest', List.append_assoc]⟩

/-- So is every further element. -/
theorem ReadsOnly.nextElement (hread : ReadsOnly read means) (hs : SurrogatesPaired s)
    (h : readElement false read s = .ok (some a, rest)) :
    SurrogatesPaired rest ∧
      ∃ v, means a v ∧ ∀ vs r, Behind vs rest r → Behind (v :: vs) s r := by
  obtain ⟨_, _, ⟨⟩, _⟩ | ⟨s₁, hcomma, _, ⟨⟩, hvalue⟩ := readElement_false_eq_ok_iff.mp h
  obtain ⟨hs', b, hb, rfl⟩ := hs.behind hcomma (by decide)
  obtain ⟨hrest, w, v, t, hw, ht, ha, rfl⟩ := hread _ _ _ hs' hvalue
  exact ⟨hrest, v, ha, fun vs r hbehind => ⟨b, w, t, rest, hb, hw, ht, hbehind, rfl⟩⟩

/-- The first element is read from any value that it can have. -/
theorem ReadsAll.firstElement (hread : ReadsAll n read means) (hs : Within (v :: vs) s rest)
    (hn : s.length ≤ n) (ha : means a v) :
    ∃ s', readElement true read s = .ok (some a, s') ∧ Behind vs s' rest ∧ s'.length ≤ n := by
  obtain ⟨w, t, s', hw, ht, hbehind, rfl⟩ := within_cons_iff.mp hs
  obtain ⟨c, tail, htail, -, hclose⟩ := ht.exists_cons
  simp only [List.length_append] at hn
  refine ⟨s', readElement_true_eq_ok_iff.mpr (Or.inr ?_), hbehind, by omega⟩
  rw [ht.skipSpace_append hw]
  refine ⟨fun r hr => ?_, a, rfl, hread [] _ _ _ _ isSpaces_nil ht (by omega) ha hbehind.stops_goesOn⟩
  rw [htail] at hr
  exact hclose (List.cons.inj hr).1

/-- So is every further element. -/
theorem ReadsAll.nextElement (hread : ReadsAll n read means) (hs : Behind (v :: vs) s rest)
    (hn : s.length ≤ n) (ha : means a v) :
    ∃ s', readElement false read s = .ok (some a, s') ∧ Behind vs s' rest ∧ s'.length ≤ n := by
  obtain ⟨b, w, t, s', hb, hw, ht, hbehind, rfl⟩ := hs
  simp only [List.length_append, List.length_cons] at hn
  exact ⟨s', readElement_false_eq_ok_iff.mpr (Or.inr ⟨_, skipSpace_append_cons hb (by decide), a, rfl,
    hread _ _ _ _ _ hw ht (by omega) ha hbehind.stops_goesOn⟩), hbehind, by omega⟩

/-- Where no element is left, the end is. -/
theorem Behind.readElement (h : Behind [] s rest) :
    readElement false read s = .ok (none, ']' :: rest) := by
  obtain ⟨w, hw, rfl⟩ := h
  exact readElement_of_closing (skipSpace_append_cons hw (by decide))

theorem Behind.readArrayEnd (h : Behind [] s rest) : readArrayEnd s = .ok rest := by
  obtain ⟨w, hw, rfl⟩ := h
  exact readArrayEnd_eq_ok_iff.mpr (skipSpace_append_cons hw (by decide))

theorem behind_of_readArrayEnd (hs : SurrogatesPaired s) (h : readArrayEnd s = .ok rest) :
    SurrogatesPaired rest ∧ Behind [] s rest := hs.behind (readArrayEnd_eq_ok_iff.mp h) (by decide)

/-- The last element, which need not be given, and the end. -/
theorem ReadsOnly.lastElement (hread : ReadsOnly read means) (hs : SurrogatesPaired s)
    (h : MethodSig.readElement false read s = .ok (o, t))
    (hend : MethodSig.readArrayEnd t = .ok rest) :
    SurrogatesPaired rest ∧ ∃ vs, Given means o vs ∧ Behind vs s rest := by
  cases o with
  | none =>
      obtain ⟨r, hclose, -, rfl⟩ | ⟨_, _, _, ⟨⟩, _⟩ := readElement_false_eq_ok_iff.mp h
      -- the bracket was seen in place of the element and is still there
      have hr := readArrayEnd_eq_ok_iff.mp hend
      rw [skipSpace_cons (by decide)] at hr
      cases hr
      obtain ⟨hrest, hbehind⟩ := behind_of_readArrayEnd hs (readArrayEnd_eq_ok_iff.mpr hclose)
      exact ⟨hrest, [], .absent, hbehind⟩
  | some a =>
      obtain ⟨ht, v, ha, hbehind⟩ := hread.nextElement hs h
      obtain ⟨hrest, hclose⟩ := behind_of_readArrayEnd ht hend
      exact ⟨hrest, [v], .once ha, hbehind _ _ hclose⟩

theorem ReadsAll.lastElement (hread : ReadsAll n read means) (hs : Behind vs s rest)
    (hn : s.length ≤ n) (ho : Given means o vs) :
    ∃ t, MethodSig.readElement false read s = .ok (o, t) ∧ MethodSig.readArrayEnd t = .ok rest := by
  cases ho with
  | absent =>
      refine ⟨_, hs.readElement, readArrayEnd_eq_ok_iff.mpr (skipSpace_cons (by decide))⟩
  | once ha =>
      obtain ⟨t, ht, hclose, -⟩ := hread.nextElement hs hn ha
      exact ⟨t, ht, hclose.readArrayEnd⟩

/-! ## Records -/

/-- A value of a record: an object with its members, or an array of its fields. -/
inductive IsRecord (members : List (String × Json) → Prop) (fields : List Json → Prop) : Json → Prop
  | object {ms : List (String × Json)} (h : members ms) : IsRecord members fields (.object ms)
  | array {vs : List Json} (h : fields vs) : IsRecord members fields (.array vs)

/-- Reads a record by its first bracket. -/
def readRecord (object array : Reader α) (expected : Expected) : Reader α := fun s =>
  match skipSpace s with
  | '{' :: s => object s
  | '[' :: s => array s
  | s => .error (wrongKind expected s)

section Records

variable {object array : Reader α} {expected : Expected}
  {members : α → List (String × Json) → Prop} {fields : α → List Json → Prop}

theorem readRecord_eq_ok_iff :
    readRecord object array expected s = .ok (a, rest) ↔
      (∃ s', skipSpace s = '{' :: s' ∧ object s' = .ok (a, rest)) ∨
        ∃ s', skipSpace s = '[' :: s' ∧ array s' = .ok (a, rest) := by
  unfold readRecord
  constructor
  · intro h
    split at h
    · rename_i hs
      exact Or.inl ⟨_, hs, h⟩
    · rename_i hs
      exact Or.inr ⟨_, hs, h⟩
    · cases h
  · rintro (⟨s', hs, h⟩ | ⟨s', hs, h⟩)
    · rw [hs]
      exact h
    · rw [hs]
      exact h

/-- A record is read only from its values if its two forms are. -/
theorem ReadsOnly.readRecord
    (hobject : ∀ s a rest, SurrogatesPaired s → object s = .ok (a, rest) →
      SurrogatesPaired rest ∧ ∃ ms t, Listed (WritesMember Writes) ms t ∧ members a ms ∧
        s = t ++ '}' :: rest)
    (harray : ∀ s a rest, SurrogatesPaired s → array s = .ok (a, rest) →
      SurrogatesPaired rest ∧ ∃ vs, Within vs s rest ∧ fields a vs) :
    ReadsOnly (readRecord object array expected) (fun a => IsRecord (members a) (fields a)) := by
  intro s a rest hs h
  rcases readRecord_eq_ok_iff.mp h with ⟨s', hskip, hread⟩ | ⟨s', hskip, hread⟩
  · obtain ⟨hs', w, hw, rfl⟩ := hs.behind hskip (by decide)
    obtain ⟨hrest, ms, t, ht, hms, rfl⟩ := hobject _ _ _ hs' hread
    exact ⟨hrest, w, _, _, hw, .object ht, .object hms, by simp⟩
  · obtain ⟨hs', w, hw, rfl⟩ := hs.behind hskip (by decide)
    obtain ⟨hrest, vs, ⟨t, ht, rfl⟩, hvs⟩ := harray _ _ _ hs' hread
    exact ⟨hrest, w, _, _, hw, .array ht, .array hvs, by simp⟩

/-- A record is read from all its values if its two forms are. -/
theorem ReadsAll.readRecord
    (hobject : ∀ ms t rest a, Listed (WritesMember Writes) ms t → members a ms →
      object (t ++ '}' :: rest) = .ok (a, rest))
    (harray : ∀ vs s rest a, Within vs s rest → fields a vs → array s = .ok (a, rest)) :
    ReadsAll n (readRecord object array expected) (fun a => IsRecord (members a) (fields a)) := by
  intro w v t rest a hw ht _ ha _
  rw [readRecord_eq_ok_iff, ht.skipSpace_append hw]
  cases ha with
  | object hms =>
      cases ht with
      | @object _ t ht => exact Or.inl ⟨t ++ '}' :: rest, by simp, hobject _ _ _ _ ht hms⟩
  | array hvs =>
      cases ht with
      | @array _ t ht => exact Or.inr ⟨t ++ ']' :: rest, by simp, harray _ _ _ _ ⟨t, ht, rfl⟩ hvs⟩

end Records

/-! ## Whole texts -/

theorem skipSpace_eq_nil_iff : skipSpace s = [] ↔ IsSpaces s :=
  List.dropWhile_eq_nil_iff

theorem readAll_eq_ok_iff {text : String} :
    readAll read text = .ok a ↔ ∃ rest, read text.toList = .ok (a, rest) ∧ IsSpaces rest := by
  rw [readAll, bind_eq_ok_iff]
  constructor
  · rintro ⟨⟨b, rest⟩, hread, h⟩
    dsimp only at h
    split at h
    · rename_i hrest
      cases h
      exact ⟨rest, hread, skipSpace_eq_nil_iff.mp hrest⟩
    · cases h
  · rintro ⟨rest, hread, hrest⟩
    refine ⟨(a, rest), hread, ?_⟩
    simp only [skipSpace_eq_nil_iff.mpr hrest]
    rfl

/-- Every document is read whose value means something. -/
theorem ReadsAll.readAll {text : String} (hread : ReadsAll text.toList.length read means)
    (h : IsDocument v text.toList) (ha : means a v) : readAll read text = .ok a := by
  obtain ⟨w, t, b, hw, ht, hb, htext⟩ := h
  refine readAll_eq_ok_iff.mpr ⟨b, ?_, hb⟩
  have hn : t.length ≤ text.toList.length := by
    rw [htext]
    simp only [List.length_append]
    omega
  have hstop : Stops goesOn b := by simpa using hb.stops_goesOn stops_nil
  rw [htext]
  exact hread w v t b a hw ht hn ha hstop

/-- **What is read are the documents** whose value means the result. -/
theorem readAll_eq_ok_iff_isDocument {text : String} (honly : ReadsOnly read means)
    (hall : ReadsAll text.toList.length read means) (hs : SurrogatesPaired text.toList) :
    readAll read text = .ok a ↔ ∃ v, IsDocument v text.toList ∧ means a v := by
  constructor
  · intro h
    obtain ⟨rest, hread, hrest⟩ := readAll_eq_ok_iff.mp h
    obtain ⟨-, w, v, t, hw, ht, ha, htext⟩ := honly _ _ _ hs hread
    exact ⟨v, ⟨w, t, rest, hw, ht, hrest, htext⟩, ha⟩
  · rintro ⟨v, h, ha⟩
    exact hall.readAll h ha

end MethodSig.Json

namespace MethodSig

open Json

theorem Param.read_eq_readRecord : Param.read = readRecord readObject readElements .param := rfl

theorem Signature.read_eq_readRecord :
    Signature.read = readRecord readObject readElements .signature := rfl

end MethodSig
