import MethodSig.Proofs.Json.Skipped

/-!
# `Proofs.Json.Unique` — a text has one value

The grammar of JSON is unambiguous: a text begins with the text of one value at most (`determined_writes`),
and so a document has one value (`IsDocument.unique`). Two things decide it. Where a value ends does not depend on
which value it is, since passing over a value goes as far as its text (`Writes.end_unique`). And its first
character tells of which kind it is (`Writes.kind_eq`).
-/

namespace MethodSig.Json

variable {v v' : Json} {s t t' r r' a a' : List Char}

/-! ## Where a value ends -/

/-- **A value ends where it ends**, whichever value it is taken for. -/
theorem Writes.end_unique (h : Writes v t) (h' : Writes v' t') (hr : Stops goesOn r)
    (hr' : Stops goesOn r') (heq : t ++ r = t' ++ r') : t = t' ∧ r = r' := by
  have hskip : skipValue ([] ++ (t ++ r)) = .ok ((), r) :=
    readsAll_skipValue t.length [] v t r () isSpaces_nil h (Nat.le_refl _) trivial hr
  have hskip' : skipValue ([] ++ (t' ++ r')) = .ok ((), r') :=
    readsAll_skipValue t'.length [] v' t' r' () isSpaces_nil h' (Nat.le_refl _) trivial hr'
  rw [← heq, hskip] at hskip'
  obtain rfl : r = r' := by
    cases hskip'
    rfl
  exact ⟨List.append_cancel_right heq, rfl⟩

/-! ## What kind of value it is -/

/-- The kinds of values. -/
inductive Kind where
  | null
  | bool
  | number
  | string
  | array
  | object

/-- The kind of a value. -/
def kind : Json → Kind
  | .null => .null
  | .bool _ => .bool
  | .number _ => .number
  | .string _ => .string
  | .array _ => .array
  | .object _ => .object

/-- The kind of the values that begin with a character. -/
def Kind.ofChar (c : Char) : Kind :=
  if c = 'n' then .null
  else if c = 't' ∨ c = 'f' then .bool
  else if c = '"' then .string
  else if c = '[' then .array
  else if c = '{' then .object
  else .number

theorem Kind.ofChar_of_number {c : Char} (hc : c = '-' ∨ c.isDigit = true) :
    Kind.ofChar c = .number := by
  have hne : ∀ d, d ≠ '-' → d.isDigit = false → c ≠ d := by
    rintro d hminus hdigit rfl
    rcases hc with hc | hc
    · exact hminus hc
    · rw [hdigit] at hc
      cases hc
  unfold Kind.ofChar
  rw [if_neg (hne 'n' (by decide) (by decide)), if_neg, if_neg (hne '"' (by decide) (by decide)),
    if_neg (hne '[' (by decide) (by decide)), if_neg (hne '{' (by decide) (by decide))]
  rintro (h | h)
  · exact hne 't' (by decide) (by decide) h
  · exact hne 'f' (by decide) (by decide) h

/-- **The first character tells the kind.** -/
theorem Writes.exists_kind (h : Writes v t) : ∃ c tail, t = c :: tail ∧ Kind.ofChar c = v.kind := by
  cases h with
  | null => exact ⟨'n', _, rfl, rfl⟩
  | @bool b =>
      cases b
      · exact ⟨'f', _, rfl, rfl⟩
      · exact ⟨'t', _, rfl, rfl⟩
  | number h =>
      obtain ⟨c, tail, htail, hc⟩ := h.exists_cons
      exact ⟨c, tail, htail, Kind.ofChar_of_number hc⟩
  | string _ => exact ⟨'"', _, rfl, rfl⟩
  | array _ => exact ⟨'[', _, rfl, rfl⟩
  | object _ => exact ⟨'{', _, rfl, rfl⟩

theorem Writes.kind_eq (h : Writes v t) (h' : Writes v' t) : v.kind = v'.kind := by
  obtain ⟨c, tail, rfl, hc⟩ := h.exists_kind
  obtain ⟨c', tail', heq, hc'⟩ := h'.exists_kind
  cases heq
  rw [← hc, ← hc']

/-! ## The text of each kind -/

theorem writes_bool_iff {b : Bool} : Writes (.bool b) t ↔ t = (toString b).toList := by
  constructor
  · rintro ⟨⟩
    rfl
  · rintro rfl
    exact .bool

theorem writes_number_iff {text : String} :
    Writes (.number text) t ↔ IsNumber text.toList ∧ t = text.toList := by
  constructor
  · rintro ⟨⟩
    exact ⟨‹_›, rfl⟩
  · rintro ⟨h, rfl⟩
    exact .number h

theorem writes_string_iff {text : String} :
    Writes (.string text) t ↔ ∃ k, WritesChars text.toList k ∧ t = '"' :: (k ++ ['"']) := by
  constructor
  · rintro ⟨⟩
    exact ⟨_, ‹_›, rfl⟩
  · rintro ⟨k, h, rfl⟩
    exact .string h

theorem writes_array_iff {items : List Json} :
    Writes (.array items) t ↔ ∃ k, Listed Writes items k ∧ t = '[' :: (k ++ [']']) := by
  constructor
  · rintro ⟨⟩
    exact ⟨_, ‹_›, rfl⟩
  · rintro ⟨k, h, rfl⟩
    exact .array h

theorem writes_object_iff {members : List (String × Json)} :
    Writes (.object members) t ↔
      ∃ k, Listed (WritesMember Writes) members k ∧ t = '{' :: (k ++ ['}']) := by
  constructor
  · rintro ⟨⟩
    exact ⟨_, ‹_›, rfl⟩
  · rintro ⟨k, h, rfl⟩
    exact .object h

theorem WritesChars.unique {cs cs' k : List Char} (h : WritesChars cs k) (h' : WritesChars cs' k) :
    cs = cs' := by
  have hread : literal? (k ++ ['"']) = some (cs, []) := h.literal?_append []
  rw [h'.literal?_append []] at hread
  cases hread
  rfl

/-! ## Lists -/

section Lists

variable {α : Type} {writes : α → List Char → Prop} {n : Nat} {xs xs' : List α}

/-- **A text that begins with a thing** of at most `n` characters begins with no other, and goes on alike. -/
def Determined (n : Nat) (writes : α → List Char → Prop) : Prop :=
  ∀ x x' t t' r r', t.length ≤ n → writes x t → writes x' t' → Stops goesOn r → Stops goesOn r' →
    t ++ r = t' ++ r' → x = x' ∧ r = r'

/-- Things begin with what is no blank. -/
def Starts (writes : α → List Char → Prop) : Prop :=
  ∀ x t, writes x t → ∃ c tail, t = c :: tail ∧ isSpace c = false

/-- Blanks in front do not matter. -/
theorem Starts.append_cancel {x x' : α} (hstart : Starts writes) (h : writes x t) (h' : writes x' t')
    (ha : IsSpaces a) (ha' : IsSpaces a') (heq : a ++ (t ++ r) = a' ++ (t' ++ r')) :
    t ++ r = t' ++ r' := by
  obtain ⟨c, tail, rfl, hc⟩ := hstart x t h
  obtain ⟨c', tail', rfl, hc'⟩ := hstart x' t' h'
  have hskip : skipSpace (a ++ (c :: tail ++ r)) = c :: tail ++ r := skipSpace_append_cons ha hc
  have hskip' : skipSpace (a' ++ (c' :: tail' ++ r')) = c' :: tail' ++ r' :=
    skipSpace_append_cons ha' hc'
  rw [← hskip, heq, hskip']

theorem IsSpaces.stops (ha : IsSpaces a) : Stops goesOn a := by
  have hstop : Stops goesOn (a ++ []) := ha.stops_goesOn stops_nil
  rwa [List.append_nil] at hstop

theorem IsSpaces.comma_notMem (ha : IsSpaces a) : ',' ∉ a := fun h => absurd (ha ',' h) (by decide)

/-- Behind blanks the first comma is found. -/
theorem IsSpaces.comma_cancel (ha : IsSpaces a) (ha' : IsSpaces a') (heq : a ++ ',' :: r = a' ++ ',' :: r') :
    r = r' := by
  have hskip : skipSpace (a ++ ',' :: r) = ',' :: r := skipSpace_append_cons ha (by decide)
  rw [heq, skipSpace_append_cons ha' (by decide)] at hskip
  cases hskip
  rfl

/-- **From things to lists.** Behind a thing stand blanks alone, or blanks and a comma, and the two cannot be
    taken for each other. -/
theorem Determined.separated (hitem : Determined n writes) (hstart : Starts writes)
    (h : Separated writes xs t) (h' : Separated writes xs' t) (hn : t.length ≤ n) : xs = xs' := by
  induction h generalizing xs' with
  | @single x a t b ha hx hb =>
      simp only [List.length_append] at hn
      generalize htext : a ++ (t ++ b) = text at h'
      cases h' with
      | @single x' a' t' b' ha' hx' hb' =>
          have hfront := hstart.append_cancel hx hx' ha ha' htext
          obtain ⟨rfl, -⟩ := hitem x x' t t' b b' (by omega) hx hx' hb.stops hb'.stops hfront
          rfl
      | @cons x' others a' t' b' ts ha' hx' hb' hs' =>
          have hfront := hstart.append_cancel hx hx' ha ha' htext
          have hcomma : Stops goesOn (b' ++ ',' :: ts) := hb'.stops_goesOn_cons (by decide)
          obtain ⟨-, rfl⟩ := hitem x x' t t' b _ (by omega) hx hx' hb.stops hcomma hfront
          exact absurd (List.mem_append_right b' List.mem_cons_self) hb.comma_notMem
  | @cons x others a t b ts ha hx hb hs ih =>
      simp only [List.length_append, List.length_cons] at hn
      have hcomma : Stops goesOn (b ++ ',' :: ts) := hb.stops_goesOn_cons (by decide)
      generalize htext : a ++ (t ++ (b ++ ',' :: ts)) = text at h'
      cases h' with
      | @single x' a' t' b' ha' hx' hb' =>
          have hfront := hstart.append_cancel hx hx' ha ha' htext
          obtain ⟨-, rfl⟩ := hitem x x' t t' _ b' (by omega) hx hx' hcomma hb'.stops hfront
          exact absurd (List.mem_append_right b List.mem_cons_self) hb'.comma_notMem
      | @cons x' others' a' t' b' ts' ha' hx' hb' hs' =>
          have hfront := hstart.append_cancel hx hx' ha ha' htext
          have hcomma' : Stops goesOn (b' ++ ',' :: ts') := hb'.stops_goesOn_cons (by decide)
          obtain ⟨rfl, hbehind⟩ := hitem x x' t t' _ _ (by omega) hx hx' hcomma hcomma' hfront
          obtain rfl : ts = ts' := hb.comma_cancel hb' hbehind
          rw [ih hs' (by omega)]

/-- **From things to what stands in brackets**, which may be nothing. -/
theorem Determined.listed (hitem : Determined n writes) (hstart : Starts writes)
    (h : Listed writes xs t) (h' : Listed writes xs' t) (hn : t.length ≤ n) : xs = xs' := by
  have not_spaces : ∀ {x : α} {ys : List α}, Separated writes (x :: ys) t → ¬ IsSpaces t := by
    intro x ys hs hspaces
    obtain ⟨w, c, tail, -, rfl, hc, -, -⟩ := hs.exists_trimmed (p := fun _ => True) fun x t hx => by
      obtain ⟨c, tail, htail, hc⟩ := hstart x t hx
      exact ⟨c, tail, htail, hc, trivial⟩
    rw [hspaces c (List.mem_append_right w List.mem_cons_self)] at hc
    cases hc
  cases h with
  | empty hw =>
      cases h' with
      | empty _ => rfl
      | items hs' => exact absurd hw (not_spaces hs')
  | items hs =>
      cases h' with
      | empty hw' => exact absurd hw' (not_spaces hs)
      | items hs' => exact hitem.separated hstart hs hs' hn

end Lists

/-! ## Values -/

theorem starts_writes : Starts Writes := by
  intro v t h
  obtain ⟨c, tail, htail, hc, -⟩ := h.exists_cons
  exact ⟨c, tail, htail, hc⟩

theorem starts_writesMember : Starts (WritesMember Writes) := by
  intro m t h
  obtain ⟨c, tail, htail, hc, -⟩ := h.exists_cons
  exact ⟨c, tail, htail, hc⟩

/-- **From values to members.** The key ends at the first quote that is not escaped. -/
theorem Determined.member {n : Nat} (hvalue : Determined n Writes) :
    Determined n (WritesMember Writes) := by
  intro m m' t t' r r' hn h h' hr hr' heq
  obtain @⟨key, v, k, a, b, t, hkey, ha, hb, hv⟩ := h
  obtain @⟨key', v', k', a', b', t', hkey', ha', hb', hv'⟩ := h'
  simp only [List.cons_append, List.append_assoc, List.cons.injEq, true_and] at heq
  simp only [List.length_cons, List.length_append] at hn
  have hread : literal? (k ++ '"' :: (a ++ ':' :: (b ++ (t ++ r)))) =
      some (key.toList, a ++ ':' :: (b ++ (t ++ r))) := hkey.literal?_append _
  rw [heq, hkey'.literal?_append] at hread
  simp only [Option.some.injEq, Prod.mk.injEq] at hread
  obtain ⟨hkeys, hbehind⟩ := hread
  have hcolon : skipSpace (a ++ ':' :: (b ++ (t ++ r))) = ':' :: (b ++ (t ++ r)) :=
    skipSpace_append_cons ha (by decide)
  rw [← hbehind, skipSpace_append_cons ha' (by decide)] at hcolon
  simp only [List.cons.injEq, true_and] at hcolon
  have hfront := starts_writes.append_cancel hv hv' hb hb' hcolon.symm
  obtain ⟨rfl, rfl⟩ := hvalue v v' t t' r r' (by omega) hv hv' hr hr' hfront
  rw [String.toList_inj.mp hkeys]
  exact ⟨rfl, rfl⟩

/-- **Values are determined by their texts**, however long these are. -/
theorem determined_writes (n : Nat) : Determined n Writes := by
  induction n with
  | zero =>
      intro v v' t t' r r' hn h
      obtain ⟨c, tail, rfl, -⟩ := h.exists_cons
      exact absurd hn (by simp)
  | succ n ih =>
      intro v v' t t' r r' hn h h' hr hr' heq
      obtain ⟨rfl, rfl⟩ := h.end_unique h' hr hr' heq
      refine ⟨?_, rfl⟩
      have hkind := h.kind_eq h'
      cases v with
      | null =>
          cases v' with
          | null => rfl
          | _ => cases hkind
      | bool b =>
          cases v' with
          | bool b' =>
              have hwords : ∀ b b' : Bool, (toString b).toList = (toString b').toList → b = b' := by
                decide
              rw [writes_bool_iff] at h h'
              rw [hwords b b' (h.symm.trans h')]
          | _ => cases hkind
      | number text =>
          cases v' with
          | number text' =>
              have htext := (writes_number_iff.mp h).2
              rw [(writes_number_iff.mp h').2] at htext
              rw [String.toList_inj.mp htext]
          | _ => cases hkind
      | string text =>
          cases v' with
          | string text' =>
              obtain ⟨k, hk, rfl⟩ := writes_string_iff.mp h
              obtain ⟨k', hk', heq⟩ := writes_string_iff.mp h'
              obtain rfl : k = k' := List.append_cancel_right (List.cons.inj heq).2
              rw [String.toList_inj.mp (hk.unique hk')]
          | _ => cases hkind
      | array items =>
          cases v' with
          | array items' =>
              obtain ⟨k, hk, rfl⟩ := writes_array_iff.mp h
              obtain ⟨k', hk', heq⟩ := writes_array_iff.mp h'
              obtain rfl : k = k' := List.append_cancel_right (List.cons.inj heq).2
              simp only [List.length_cons, List.length_append] at hn
              rw [ih.listed starts_writes hk hk' (by omega)]
          | _ => cases hkind
      | object members =>
          cases v' with
          | object members' =>
              obtain ⟨k, hk, rfl⟩ := writes_object_iff.mp h
              obtain ⟨k', hk', heq⟩ := writes_object_iff.mp h'
              obtain rfl : k = k' := List.append_cancel_right (List.cons.inj heq).2
              simp only [List.length_cons, List.length_append] at hn
              rw [ih.member.listed starts_writesMember hk hk' (by omega)]
          | _ => cases hkind

/-- **The grammar is unambiguous**: a document has one value. -/
theorem IsDocument.unique (h : IsDocument v s) (h' : IsDocument v' s) : v = v' := by
  obtain ⟨a, t, b, ha, ht, hb, rfl⟩ := h
  obtain ⟨a', t', b', ha', ht', hb', heq⟩ := h'
  have hfront : t ++ b = t' ++ b' := starts_writes.append_cancel ht ht' ha ha' heq
  exact (determined_writes t.length v v' t t' b b' (Nat.le_refl _) ht ht' hb.stops hb'.stops hfront).1

end MethodSig.Json
