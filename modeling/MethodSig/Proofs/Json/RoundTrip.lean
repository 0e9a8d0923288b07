import MethodSig.Proofs.Json.Described

/-!
# `Proofs.Json.RoundTrip` — what is written is read back

Writing comes in two layers. A value is rendered under a layout, and where a layout puts nothing but blanks
between the parts, what comes out is a document with that value (`isDocument_compact`, `isDocument_pretty`).
A signature becomes a value that describes it (`Signature.describedBy_toJson`). Reading all that describes
a signature then gives it back, whatever its texts are.
-/

namespace MethodSig

namespace Json

/-! ## Strings -/

/-- A control is written by its number, in two zeros and two digits. -/
theorem code?_control : ∀ n < 0x20,
    code? ['0', '0', Nat.digitChar (n / 16), Nat.digitChar (n % 16)] = some (n, []) := by
  decide

/-- **Every character is escaped rightly.** -/
theorem writesChar_escapeChar (c : Char) : WritesChar c (escapeChar c) := by
  unfold escapeChar
  by_cases hquote : c = '"'
  · subst hquote
    exact .letter (by decide)
  · by_cases hbackslash : c = '\\'
    · subst hbackslash
      exact .letter (by decide)
    · -- of the others, the five with a letter of their own, the controls, and the rest
      rw [if_neg hquote, if_neg hbackslash]
      split_ifs with hb ht hn hf hr hcontrol
      · exact .letter (by subst hb; decide)
      · exact .letter (by subst ht; decide)
      · exact .letter (by subst hn; decide)
      · exact .letter (by subst hf; decide)
      · exact .letter (by subst hr; decide)
      · exact .code (code?_control c.toNat hcontrol)
      · exact .plain (Nat.le_of_not_lt hcontrol) hquote hbackslash

theorem writesChars_flatMap_escapeChar (cs : List Char) : WritesChars cs (cs.flatMap escapeChar) := by
  induction cs with
  | nil => exact .nil
  | cons c cs ih => exact .cons (writesChar_escapeChar c) ih

/-! ## Layouts -/

/-- **A layout of blanks**: line breaks are blanks, and so is what follows a colon. -/
structure Layout.Blank (l : Layout) : Prop where
  lineBreak : ∀ depth, IsSpaces (l.lineBreak depth)
  colon : ∃ b, IsSpaces b ∧ l.colon = ':' :: b

theorem Layout.blank_compact : Layout.compact.Blank where
  lineBreak _ := isSpaces_nil
  colon := ⟨[], isSpaces_nil, rfl⟩

theorem Layout.blank_pretty : Layout.pretty.Blank where
  lineBreak depth := by
    intro c hc
    rcases List.mem_cons.mp hc with rfl | hc
    · rfl
    · rw [List.eq_of_mem_replicate hc]
      rfl
  colon := ⟨[' '], by simp [IsSpaces, isSpace], rfl⟩

theorem Layout.Blank.closing {l : Layout} (hl : l.Blank) (depth : Nat) (isEmpty : Bool) :
    IsSpaces (l.closing depth isEmpty) := by
  unfold Layout.closing
  split
  · exact isSpaces_nil
  · exact hl.lineBreak depth

/-! ## Values -/

/-- **Values in which every number is one.** A value holds the text of a number, whatever it is. -/
inductive Proper : Json → Prop
  | null : Proper .null
  | bool {b : Bool} : Proper (.bool b)
  | number {text : String} (h : IsNumber text.toList) : Proper (.number text)
  | string {s : String} : Proper (.string s)
  | array {items : List Json} (h : ∀ v ∈ items, Proper v) : Proper (.array items)
  | object {members : List (String × Json)} (h : ∀ m ∈ members, Proper m.2) : Proper (.object members)

variable {l : Layout} {depth : Nat} {v : Json}

theorem renderItems_comma (items : List Json) :
    renderItems l depth [','] items =
      items.flatMap fun v => ',' :: (l.lineBreak depth ++ render l depth v) := by
  induction items with
  | nil => rfl
  | cons v items ih => simp [renderItems, ih]

/-- A member as it is rendered: its key, the colon and its value. -/
def memberText (l : Layout) (depth : Nat) (m : String × Json) : List Char :=
  stringText m.1 ++ l.colon ++ render l depth m.2

theorem renderMembers_comma (members : List (String × Json)) :
    renderMembers l depth [','] members =
      members.flatMap fun m => ',' :: (l.lineBreak depth ++ memberText l depth m) := by
  induction members with
  | nil => rfl
  | cons m members ih => simp [renderMembers, memberText, ih]

/-- The first of some things and the others, each behind a comma. -/
theorem separated_flatMap {α : Type} {writes : α → List Char → Prop} {text : α → List Char} {x : α}
    {xs : List α} {w b : List Char} (hw : IsSpaces w) (hb : IsSpaces b)
    (h : ∀ y ∈ x :: xs, writes y (text y)) :
    Separated writes (x :: xs) (w ++ (text x ++ (xs.flatMap (fun y => ',' :: (w ++ text y)) ++ b))) := by
  induction xs generalizing x with
  | nil => exact .single hw (h x List.mem_cons_self) hb
  | cons x' xs ih =>
      -- `x'` is the first of those behind the comma
      have hothers := ih fun y hy => h y (List.mem_cons_of_mem x hy)
      have hcons := Separated.cons hw (h x List.mem_cons_self) isSpaces_nil hothers
      simpa using hcons

theorem writesMember_memberText (hl : l.Blank) {m : String × Json} (h : Writes m.2 (render l depth m.2)) :
    WritesMember Writes m (memberText l depth m) := by
  obtain ⟨b, hb, hcolon⟩ := hl.colon
  have hkey : WritesChars m.1.toList (m.1.toList.flatMap escapeChar) :=
    writesChars_flatMap_escapeChar m.1.toList
  simpa [memberText, stringText, hcolon] using WritesMember.mk hkey isSpaces_nil hb h

/-- **What is rendered under a layout of blanks is a text of the value.** -/
theorem Proper.writes_render (h : v.Proper) (hl : l.Blank) (depth : Nat) :
    Writes v (render l depth v) := by
  induction h generalizing depth with
  | null => exact .null
  | bool => exact .bool
  | number h => exact .number h
  | @string s => exact .string (writesChars_flatMap_escapeChar s.toList)
  | @array items _ ih =>
      rw [render]
      refine .array ?_
      cases items with
      | nil => exact .empty (hl.closing depth true)
      | cons v items =>
          have hitems := separated_flatMap (hl.lineBreak (depth + 1)) (hl.closing depth false)
            fun v hv => ih v hv (depth + 1)
          exact .items (by simpa [renderItems, renderItems_comma] using hitems)
  | @object members _ ih =>
      rw [render]
      refine .object ?_
      cases members with
      | nil => exact .empty (hl.closing depth true)
      | cons m members =>
          have hmembers := separated_flatMap (hl.lineBreak (depth + 1)) (hl.closing depth false)
            fun m hm => writesMember_memberText hl (ih m hm (depth + 1))
          exact .items (by simpa [renderMembers, renderMembers_comma, memberText] using hmembers)

theorem Proper.isDocument_render (h : v.Proper) (hl : l.Blank) :
    IsDocument v (String.ofList (v.render l 0)).toList :=
  ⟨[], _, [], isSpaces_nil, h.writes_render hl 0, isSpaces_nil, by simp⟩

theorem Proper.isDocument_compact (h : v.Proper) : IsDocument v v.compact.toList :=
  h.isDocument_render Layout.blank_compact

theorem Proper.isDocument_pretty (h : v.Proper) : IsDocument v v.pretty.toList :=
  h.isDocument_render Layout.blank_pretty

end Json

open Json

/-! ## Parameters and signatures -/

theorem Param.proper_toJson (p : Param) : p.toJson.Proper := by
  refine .object ?_
  simp only [List.mem_cons, List.not_mem_nil, or_false, forall_eq_or_imp, forall_eq]
  exact ⟨.string, .string⟩

theorem Param.describedBy_toJson (p : Param) : p.DescribedBy p.toJson :=
  .object ⟨by simp [valuesOf], by simp [valuesOf]⟩

theorem Signature.proper_toJson (d : Signature) : d.toJson.Proper := by
  refine .object fun m hm => ?_
  rcases List.mem_append.mp hm with hm | hm
  · cases hvisibility : d.visibility with
    | none => simp [hvisibility] at hm
    | some v =>
        simp only [hvisibility, List.mem_singleton] at hm
        subst hm
        exact .string
  · simp only [List.mem_cons, List.not_mem_nil, or_false] at hm
    rcases hm with rfl | rfl | rfl
    · exact .string
    · exact .string
    · exact .array fun v hv => by
        obtain ⟨p, -, rfl⟩ := List.mem_map.mp hv
        exact p.proper_toJson

/-- **The value of a signature describes it.** -/
theorem Signature.describedBy_toJson (d : Signature) : d.DescribedBy d.toJson := by
  have hparams : Param.ListDescribedBy d.params (.array (d.params.map Param.toJson)) :=
    .array (List.forall₂_map_right_iff.mpr (List.forall₂_same.mpr fun p _ => p.describedBy_toJson))
  refine .object ?_
  obtain ⟨visibility, returnType, name, params⟩ := d
  cases visibility with
  | none => exact ⟨.absent, rfl, rfl, .given hparams⟩
  | some v => exact ⟨.given rfl, rfl, rfl, .given hparams⟩

/-! ## Round trip -/

/-- **Reading undoes writing**, in both layouts, for every signature and every parameter. -/
theorem ofJson_toJson :
    (∀ d : Signature, Signature.ofJson d.toJson.compact = .ok d ∧ Signature.ofJson d.toJson.pretty = .ok d) ∧
      ∀ p : Param, Param.ofJson p.toJson.compact = .ok p ∧ Param.ofJson p.toJson.pretty = .ok p :=
  ⟨fun d =>
    ⟨Signature.readsAll_read.readAll d.proper_toJson.isDocument_compact d.describedBy_toJson,
      Signature.readsAll_read.readAll d.proper_toJson.isDocument_pretty d.describedBy_toJson⟩,
    fun p =>
    ⟨Param.readsAll_read.readAll p.proper_toJson.isDocument_compact p.describedBy_toJson,
      Param.readsAll_read.readAll p.proper_toJson.isDocument_pretty p.describedBy_toJson⟩⟩

end MethodSig
