import MethodSig.Proofs.Json.Fields

/-!
# `Proofs.Json.Described` — the documents that a signature is read from

What a JSON value has to be to describe a signature, said of the value as a whole: which members an object
has, in whatever order and among whatever others, or which elements an array has. The reader meets the
parts of a value one after the other and keeps what it has seen so far; it accepts a text exactly if the
text is a document with such a value (`Signature.ofJson_eq_ok_iff_isDocument`).
-/

namespace MethodSig

open Json

/-! ## Descriptions -/

/-- A visibility is described by its keyword. -/
def Visibility.DescribedBy (m : Visibility) (v : Json) : Prop := v = .string m.keyword

/-- Where there may be none, `null` says that there is none. -/
def Visibility.OptionDescribedBy : Option Visibility → Json → Prop
  | none, v => v = .null
  | some m, v => m.DescribedBy v

/-- The members of an object that describe a parameter, among any others. -/
structure Param.MembersDescribe (p : Param) (members : List (String × Json)) : Prop where
  type : valuesOf "type" members = [.string p.type]
  name : valuesOf "name" members = [.string p.name]

/-- A parameter is described by an object or by an array of two strings. -/
def Param.DescribedBy (p : Param) : Json → Prop :=
  IsRecord p.MembersDescribe fun vs => vs = [.string p.type, .string p.name]

/-- Parameters are described by an array with one element for each. -/
inductive Param.ListDescribedBy : List Param → Json → Prop
  | array {params : List Param} {vs : List Json} (h : List.Forall₂ Param.DescribedBy params vs) :
      ListDescribedBy params (.array vs)

/-- The members of an object that describe a signature, among any others. -/
structure Signature.MembersDescribe (d : Signature) (members : List (String × Json)) : Prop where
  visibility : AtMostOne Visibility.OptionDescribedBy none d.visibility (valuesOf "accessModifier" members)
  returnType : valuesOf "returnType" members = [.string d.returnType]
  name : valuesOf "methodName" members = [.string d.name]
  params : AtMostOne Param.ListDescribedBy [] d.params (valuesOf "arguments" members)

/-- The elements of an array that describe a signature: three, or four with the parameters. -/
inductive Signature.FieldsDescribe (d : Signature) : List Json → Prop
  | fields {v : Json} {vs : List Json} (hvisibility : Visibility.OptionDescribedBy d.visibility v)
      (hparams : AtMostOne Param.ListDescribedBy [] d.params vs) :
      FieldsDescribe d (v :: .string d.returnType :: .string d.name :: vs)

/-- A signature is described by an object or by an array of its fields. -/
def Signature.DescribedBy (d : Signature) : Json → Prop := IsRecord d.MembersDescribe d.FieldsDescribe

variable {s t rest : List Char} {n : Nat} {ms : List (String × Json)} {vs : List Json}

/-! ## Visibilities -/

namespace Visibility

theorem ofKeyword?_eq_some_iff {word : String} {m : Visibility} :
    ofKeyword? word = some m ↔ word = m.keyword := by
  constructor
  · intro h
    exact (keyword_of_ofKeyword? h).symm
  · rintro rfl
    exact ofKeyword?_keyword m

theorem read_eq_ok_iff {m : Visibility} : read s = .ok (m, rest) ↔ readString s = .ok (m.keyword, rest) := by
  rw [read, bind_eq_ok_iff]
  constructor
  · rintro ⟨⟨word, r⟩, hword, h⟩
    dsimp only at h
    split at h
    · rename_i m' hm
      cases h
      rw [hword, ofKeyword?_eq_some_iff.mp hm]
    · cases h
  · intro h
    refine ⟨_, h, ?_⟩
    simp only [ofKeyword?_keyword]
    rfl

theorem readsOnly_read : ReadsOnly read DescribedBy :=
  fun _ _ _ hs h => readsOnly_readString _ _ _ hs (read_eq_ok_iff.mp h)

theorem readsAll_read : ReadsAll n read DescribedBy :=
  fun _ _ _ _ _ hw ht hn hm hrest => read_eq_ok_iff.mpr (readsAll_readString _ _ _ _ _ hw ht hn hm hrest)

theorem readOptional_eq_ok_iff {o : Option Visibility} :
    readOptional s = .ok (o, rest) ↔
      skipSpace s = "null".toList ++ rest ∧ o = none ∨
        (∀ r, skipSpace s ≠ 'n' :: r) ∧ ∃ m, o = some m ∧ read (skipSpace s) = .ok (m, rest) := by
  unfold readOptional
  constructor
  · intro h
    split at h
    · rename_i r hr
      split at h
      · rename_i hword
        cases h
        obtain ⟨tail, rfl⟩ := List.isPrefixOf_iff_prefix.mp hword
        exact Or.inl ⟨hr, rfl⟩
      · cases h
    · rename_i hr
      exact Or.inr ⟨hr, bind_some_eq_ok_iff.mp h⟩
  · rintro (⟨hnull, rfl⟩ | ⟨hn, hread⟩)
    · simp [hnull]
    · split
      · rename_i hr
        exact absurd hr (hn _)
      · exact bind_some_eq_ok_iff.mpr hread

theorem readsOnly_readOptional : ReadsOnly readOptional OptionDescribedBy := by
  intro s o rest hs h
  obtain ⟨w, hw, hskip⟩ := eq_append_skipSpace s
  rcases readOptional_eq_ok_iff.mp h with ⟨hnull, rfl⟩ | ⟨-, m, rfl, hread⟩
  · have hs' := hs.skipSpace
    rw [hnull] at hskip hs'
    exact ⟨hs'.of_append (by decide), w, _, _, hw, .null, rfl, hskip⟩
  · obtain ⟨hrest, w', v, t, hw', ht, hm, heq⟩ := readsOnly_read _ _ _ hs.skipSpace hread
    refine ⟨hrest, w ++ w', v, t, hw.append hw', ht, hm, ?_⟩
    rw [hskip, heq, List.append_assoc]

theorem readsAll_readOptional : ReadsAll n readOptional OptionDescribedBy := by
  intro w v t rest o hw ht hn ho hrest
  rw [readOptional_eq_ok_iff, ht.skipSpace_append hw]
  cases o with
  | none =>
      cases ho
      cases ht
      exact Or.inl ⟨rfl, rfl⟩
  | some m =>
      refine Or.inr ⟨?_, m, rfl, readsAll_read [] _ _ _ _ isSpaces_nil ht hn ho hrest⟩
      cases ho
      cases ht
      intro r hr
      exact absurd (List.cons.inj hr).1 (by decide)

end Visibility

/-! ## Parameters -/

namespace Param

/-- What a member does to the fields of a parameter. -/
structure FieldsStep (given : Fields) (m : String × Json) (given' : Fields) : Prop where
  type : FieldStep "type" IsString given.type m given'.type
  name : FieldStep "name" IsString given.name m given'.name

/-- The fields do not look at each other. -/
theorem steps_iff {given given' : Fields} :
    Steps FieldsStep given ms given' ↔
      Steps (FieldStep "type" IsString) given.type ms given'.type ∧
        Steps (FieldStep "name" IsString) given.name ms given'.name := by
  induction ms generalizing given with
  | nil =>
      obtain ⟨type, name⟩ := given
      obtain ⟨type', name'⟩ := given'
      simp [steps_nil_iff]
  | cons m ms ih =>
      simp only [steps_cons_iff, ih]
      constructor
      · rintro ⟨between, h, htype, hname⟩
        exact ⟨⟨_, h.type, htype⟩, ⟨_, h.name, hname⟩⟩
      · rintro ⟨⟨type, h₁, htype⟩, ⟨name, h₂, hname⟩⟩
        exact ⟨⟨type, name⟩, ⟨h₁, h₂⟩, htype, hname⟩

theorem readsOnly_readMember : MemberReadsOnly readMember FieldsStep := by
  intro given key chars s given' rest hkey hs h
  rw [readMember, hkey] at h
  simp only [Option.map_some] at h
  generalize String.ofList chars = k at h ⊢
  split_ifs at h with htype hname
  · subst k
    exact readsOnly_readString.member_field (fun type => { given with type }) hs h
      fun v o' hstep => ⟨hstep, .other (by decide)⟩
  · subst k
    exact readsOnly_readString.member_field (fun name => { given with name }) hs h
      fun v o' hstep => ⟨.other (by decide), hstep⟩
  · obtain ⟨⟨_, _⟩, hskip, heq⟩ := bind_eq_ok_iff.mp h
    cases heq
    obtain ⟨hrest, a, b, v, t, ha, hb, ht, -, hs⟩ := readsOnly_skipValue.behindColon hs hskip
    exact ⟨hrest, a, b, v, t, ha, hb, ht, ⟨.other htype, .other hname⟩, hs⟩

theorem readsAll_readMember : MemberReadsAll n readMember FieldsStep := by
  rintro given key chars a b v t rest ⟨type, name⟩ hkey ha hb ht hn ⟨htype, hname⟩ hrest
  rw [readMember, hkey]
  simp only [Option.map_some]
  generalize String.ofList chars = k at htype hname ⊢
  split_ifs with hk₁ hk₂
  · subst k
    cases (fieldStep_of_ne_iff (by decide)).mp hname
    exact readsAll_readString.member_field (fun type => { given with type }) ha hb ht hn htype hrest rfl
  · subst k
    cases (fieldStep_of_ne_iff (by decide)).mp htype
    exact readsAll_readString.member_field (fun name => { given with name }) ha hb ht hn hname hrest rfl
  · cases (fieldStep_of_ne_iff hk₁).mp htype
    cases (fieldStep_of_ne_iff hk₂).mp hname
    exact bind_eq_ok_iff.mpr
      ⟨((), rest), (readsAll_skipValue n).behindColon ha hb ht hn trivial hrest, rfl⟩

theorem readObject_eq_ok_iff {p : Param} :
    readObject s = .ok (p, rest) ↔
      Json.readObject readMember {} s = .ok (⟨some p.type, some p.name⟩, rest) := by
  simp only [readObject, bind_eq_ok_iff, Prod.exists, required_eq_ok_iff]
  constructor
  · rintro ⟨⟨_, _⟩, r, h, type, rfl, name, rfl, heq⟩
    cases heq
    exact h
  · intro h
    exact ⟨_, rest, h, p.type, rfl, p.name, rfl, rfl⟩

/-- Over the members that describe a parameter, and over no others, its fields are filled. -/
theorem membersDescribe_iff {p : Param} :
    p.MembersDescribe ms ↔ Steps FieldsStep {} ms ⟨some p.type, some p.name⟩ := by
  simp only [steps_iff, steps_none_iff, given_some_iff, IsString, exists_eq_right]
  exact ⟨fun h => ⟨h.type, h.name⟩, fun h => ⟨h.1, h.2⟩⟩

theorem readElements_eq_ok_iff {p : Param} :
    readElements s = .ok (p, rest) ↔
      ∃ s₁ s₂, readElement true readString s = .ok (some p.type, s₁) ∧
        readElement false readString s₁ = .ok (some p.name, s₂) ∧ readArrayEnd s₂ = .ok rest := by
  simp only [readElements, bind_eq_ok_iff, Prod.exists, requiredElement_eq_ok_iff]
  constructor
  · rintro ⟨_, s₁, htype, type, rfl, _, s₂, hname, name, rfl, r, hend, heq⟩
    cases heq
    exact ⟨s₁, s₂, htype, hname, hend⟩
  · rintro ⟨s₁, s₂, htype, hname, hend⟩
    exact ⟨_, s₁, htype, p.type, rfl, _, s₂, hname, p.name, rfl, rest, hend, rfl⟩

/-- **A parameter is read only from what describes it.** -/
theorem readsOnly_read : ReadsOnly read DescribedBy := by
  rw [read_eq_readRecord]
  refine ReadsOnly.readRecord ?_ ?_
  · intro s p rest hs h
    obtain ⟨hrest, ms, t, ht, hsteps, heq⟩ :=
      readsOnly_readMember.readObject hs (readObject_eq_ok_iff.mp h)
    exact ⟨hrest, ms, t, ht, membersDescribe_iff.mpr hsteps, heq⟩
  · intro s p rest hs h
    obtain ⟨s₁, s₂, htype, hname, hend⟩ := readElements_eq_ok_iff.mp h
    obtain ⟨hs₁, _, rfl, hwithin⟩ := readsOnly_readString.firstElement hs htype
    obtain ⟨hs₂, _, rfl, hbehind⟩ := readsOnly_readString.nextElement hs₁ hname
    obtain ⟨hrest, hclose⟩ := behind_of_readArrayEnd hs₂ hend
    exact ⟨hrest, _, hwithin _ _ (hbehind _ _ hclose), rfl⟩

/-- **A parameter is read from all that describes it.** -/
theorem readsAll_read : ReadsAll n read DescribedBy := by
  rw [read_eq_readRecord]
  refine ReadsAll.readRecord ?_ ?_
  · intro ms t rest p ht hms
    exact readObject_eq_ok_iff.mpr
      (readsAll_readMember.readObject ht (Nat.le_refl _) (membersDescribe_iff.mp hms))
  · rintro vs s rest p hs rfl
    obtain ⟨s₁, htype, hs₁, hn⟩ := readsAll_readString.firstElement hs (Nat.le_refl _) rfl
    obtain ⟨s₂, hname, hs₂, -⟩ := readsAll_readString.nextElement hs₁ hn rfl
    exact readElements_eq_ok_iff.mpr ⟨s₁, s₂, htype, hname, hs₂.readArrayEnd⟩

theorem readList_eq_ok_iff {params : List Param} :
    readList s = .ok (params, rest) ↔
      ∃ s', skipSpace s = '[' :: s' ∧ readArray read s' = .ok (params, rest) := by
  unfold readList
  constructor
  · intro h
    split at h
    · rename_i s' hs
      exact ⟨s', hs, h⟩
    · cases h
  · rintro ⟨s', hs, h⟩
    simp only [hs, h]

theorem readsOnly_readList : ReadsOnly readList ListDescribedBy := by
  intro s params rest hs h
  obtain ⟨s', hskip, harray⟩ := readList_eq_ok_iff.mp h
  obtain ⟨hs', w, hw, rfl⟩ := hs.behind hskip (by decide)
  obtain ⟨hrest, vs, t, ht, hvs, rfl⟩ := readsOnly_read.readArray hs' harray
  exact ⟨hrest, w, _, _, hw, .array ht, .array hvs, by simp⟩

theorem readsAll_readList : ReadsAll n readList ListDescribedBy := by
  rintro w _ t rest params hw ht - ⟨hvs⟩ -
  rw [readList_eq_ok_iff, ht.skipSpace_append hw]
  cases ht with
  | @array _ t ht => exact ⟨t ++ ']' :: rest, by simp, readsAll_read.readArray ht (Nat.le_refl _) hvs⟩

end Param

/-! ## Signatures -/

namespace Signature

/-- What a member does to the fields of a signature. -/
structure FieldsStep (given : Fields) (m : String × Json) (given' : Fields) : Prop where
  visibility : FieldStep "accessModifier" Visibility.OptionDescribedBy given.visibility m given'.visibility
  returnType : FieldStep "returnType" IsString given.returnType m given'.returnType
  name : FieldStep "methodName" IsString given.name m given'.name
  params : FieldStep "arguments" Param.ListDescribedBy given.params m given'.params

/-- The fields do not look at each other. -/
theorem steps_iff {given given' : Fields} :
    Steps FieldsStep given ms given' ↔
      Steps (FieldStep "accessModifier" Visibility.OptionDescribedBy) given.visibility ms
          given'.visibility ∧
        Steps (FieldStep "returnType" IsString) given.returnType ms given'.returnType ∧
        Steps (FieldStep "methodName" IsString) given.name ms given'.name ∧
        Steps (FieldStep "arguments" Param.ListDescribedBy) given.params ms given'.params := by
  induction ms generalizing given with
  | nil =>
      obtain ⟨visibility, returnType, name, params⟩ := given
      obtain ⟨visibility', returnType', name', params'⟩ := given'
      simp [steps_nil_iff]
  | cons m ms ih =>
      simp only [steps_cons_iff, ih]
      constructor
      · rintro ⟨between, h, hvisibility, hreturnType, hname, hparams⟩
        exact ⟨⟨_, h.visibility, hvisibility⟩, ⟨_, h.returnType, hreturnType⟩, ⟨_, h.name, hname⟩,
          ⟨_, h.params, hparams⟩⟩
      · rintro ⟨⟨visibility, h₁, hvisibility⟩, ⟨returnType, h₂, hreturnType⟩, ⟨name, h₃, hname⟩,
          ⟨params, h₄, hparams⟩⟩
        exact ⟨⟨visibility, returnType, name, params⟩, ⟨h₁, h₂, h₃, h₄⟩, hvisibility, hreturnType,
          hname, hparams⟩

theorem readsOnly_readMember : MemberReadsOnly readMember FieldsStep := by
  intro given key chars s given' rest hkey hs h
  rw [readMember, hkey] at h
  simp only [Option.map_some] at h
  generalize String.ofList chars = k at h ⊢
  split_ifs at h with hvisibility hreturnType hname hparams
  · subst k
    exact Visibility.readsOnly_readOptional.member_field (fun visibility => { given with visibility }) hs h
      fun v o' hstep => ⟨hstep, .other (by decide), .other (by decide), .other (by decide)⟩
  · subst k
    exact readsOnly_readString.member_field (fun returnType => { given with returnType }) hs h
      fun v o' hstep => ⟨.other (by decide), hstep, .other (by decide), .other (by decide)⟩
  · subst k
    exact readsOnly_readString.member_field (fun name => { given with name }) hs h
      fun v o' hstep => ⟨.other (by decide), .other (by decide), hstep, .other (by decide)⟩
  · subst k
    exact Param.readsOnly_readList.member_field (fun params => { given with params }) hs h
      fun v o' hstep => ⟨.other (by decide), .other (by decide), .other (by decide), hstep⟩
  · obtain ⟨⟨_, _⟩, hskip, heq⟩ := bind_eq_ok_iff.mp h
    cases heq
    obtain ⟨hrest, a, b, v, t, ha, hb, ht, -, hs⟩ := readsOnly_skipValue.behindColon hs hskip
    exact ⟨hrest, a, b, v, t, ha, hb, ht,
      ⟨.other hvisibility, .other hreturnType, .other hname, .other hparams⟩, hs⟩

theorem readsAll_readMember : MemberReadsAll n readMember FieldsStep := by
  rintro given key chars a b v t rest ⟨visibility, returnType, name, params⟩ hkey ha hb ht hn
    ⟨hvisibility, hreturnType, hname, hparams⟩ hrest
  rw [readMember, hkey]
  simp only [Option.map_some]
  generalize String.ofList chars = k at hvisibility hreturnType hname hparams ⊢
  -- the fields with another name are as they were
  have other : ∀ {α : Type} {means : α → Json → Prop} {o o' : Option α} {field : String},
      FieldStep field means o (k, v) o' → k ≠ field → o' = o :=
    fun hstep hne => (fieldStep_of_ne_iff hne).mp hstep
  split_ifs with hk₁ hk₂ hk₃ hk₄
  · subst k
    cases other hreturnType (by decide)
    cases other hname (by decide)
    cases other hparams (by decide)
    exact Visibility.readsAll_readOptional.member_field (fun visibility => { given with visibility })
      ha hb ht hn hvisibility hrest rfl
  · subst k
    cases other hvisibility (by decide)
    cases other hname (by decide)
    cases other hparams (by decide)
    exact readsAll_readString.member_field (fun returnType => { given with returnType })
      ha hb ht hn hreturnType hrest rfl
  · subst k
    cases other hvisibility (by decide)
    cases other hreturnType (by decide)
    cases other hparams (by decide)
    exact readsAll_readString.member_field (fun name => { given with name }) ha hb ht hn hname hrest rfl
  · subst k
    cases other hvisibility (by decide)
    cases other hreturnType (by decide)
    cases other hname (by decide)
    exact Param.readsAll_readList.member_field (fun params => { given with params })
      ha hb ht hn hparams hrest rfl
  · cases other hvisibility hk₁
    cases other hreturnType hk₂
    cases other hname hk₃
    cases other hparams hk₄
    exact bind_eq_ok_iff.mpr
      ⟨((), rest), (readsAll_skipValue n).behindColon ha hb ht hn trivial hrest, rfl⟩

/-- What the fields that were given amount to. -/
structure Fields.Make (given : Fields) (d : Signature) : Prop where
  visibility : given.visibility.join = d.visibility
  returnType : given.returnType = some d.returnType
  name : given.name = some d.name
  params : given.params.getD [] = d.params

theorem readObject_eq_ok_iff {d : Signature} :
    readObject s = .ok (d, rest) ↔
      ∃ given, Json.readObject readMember {} s = .ok (given, rest) ∧ given.Make d := by
  simp only [readObject, bind_eq_ok_iff, Prod.exists, required_eq_ok_iff]
  constructor
  · rintro ⟨given, r, h, returnType, hreturnType, name, hname, heq⟩
    cases heq
    exact ⟨given, h, rfl, hreturnType, hname, rfl⟩
  · rintro ⟨given, h, hvisibility, hreturnType, hname, hparams⟩
    exact ⟨given, rest, h, _, hreturnType, _, hname, by rw [hvisibility, hparams]; rfl⟩

theorem join_eq_getD {α : Type} (o : Option (Option α)) : o.join = o.getD none := by
  cases o <;> rfl

/-- Over the members that describe a signature, and over no others, its fields are filled. -/
theorem membersDescribe_iff {d : Signature} :
    d.MembersDescribe ms ↔ ∃ given, Steps FieldsStep {} ms given ∧ given.Make d := by
  simp only [steps_iff, steps_none_iff]
  constructor
  · rintro ⟨hvisibility, hreturnType, hname, hparams⟩
    obtain ⟨visibility, hvisibility, hjoin⟩ := hvisibility.exists_given
    obtain ⟨params, hparams, hgetD⟩ := hparams.exists_given
    exact ⟨⟨visibility, some d.returnType, some d.name, params⟩,
      ⟨hvisibility, hreturnType ▸ .once rfl, hname ▸ .once rfl, hparams⟩, join_eq_getD visibility ▸ hjoin, rfl, rfl, hgetD⟩
  · rintro ⟨given, ⟨hvisibility, hreturnType, hname, hparams⟩, hmake⟩
    rw [hmake.returnType, given_some_iff] at hreturnType
    rw [hmake.name, given_some_iff] at hname
    obtain ⟨_, hreturnType, rfl⟩ := hreturnType
    obtain ⟨_, hname, rfl⟩ := hname
    have hjoin := hmake.visibility
    rw [join_eq_getD] at hjoin
    exact ⟨hjoin ▸ hvisibility.atMostOne, hreturnType, hname, hmake.params ▸ hparams.atMostOne⟩

theorem readElements_eq_ok_iff {d : Signature} :
    readElements s = .ok (d, rest) ↔
      ∃ visibility s₁ s₂ s₃ params s₄,
        readElement true Visibility.readOptional s = .ok (visibility, s₁) ∧
        readElement false readString s₁ = .ok (some d.returnType, s₂) ∧
        readElement false readString s₂ = .ok (some d.name, s₃) ∧
        readElement false Param.readList s₃ = .ok (params, s₄) ∧ readArrayEnd s₄ = .ok rest ∧
        visibility.join = d.visibility ∧ params.getD [] = d.params := by
  simp only [readElements, bind_eq_ok_iff, Prod.exists, requiredElement_eq_ok_iff]
  constructor
  · rintro ⟨visibility, s₁, hvisibility, _, s₂, hreturnType, returnType, rfl, _, s₃, hname, name, rfl,
      params, s₄, hparams, r, hend, heq⟩
    cases heq
    exact ⟨visibility, s₁, s₂, s₃, params, s₄, hvisibility, hreturnType, hname, hparams, hend, rfl, rfl⟩
  · rintro ⟨visibility, s₁, s₂, s₃, params, s₄, hvisibility, hreturnType, hname, hparams, hend, hjoin,
      hgetD⟩
    exact ⟨visibility, s₁, hvisibility, _, s₂, hreturnType, _, rfl, _, s₃, hname, _, rfl, params, s₄,
      hparams, rest, hend, by rw [hjoin, hgetD]; rfl⟩

/-- **A signature is read only from what describes it.** -/
theorem readsOnly_read : ReadsOnly read DescribedBy := by
  rw [read_eq_readRecord]
  refine ReadsOnly.readRecord ?_ ?_
  · intro s d rest hs h
    obtain ⟨given, h, hmake⟩ := readObject_eq_ok_iff.mp h
    obtain ⟨hrest, ms, t, ht, hsteps, heq⟩ := readsOnly_readMember.readObject hs h
    exact ⟨hrest, ms, t, ht, membersDescribe_iff.mpr ⟨given, hsteps, hmake⟩, heq⟩
  · intro s d rest hs h
    obtain ⟨visibility, s₁, s₂, s₃, params, s₄, hvisibility, hreturnType, hname, hparams, hend, hjoin,
      hgetD⟩ := readElements_eq_ok_iff.mp h
    cases visibility with
    | none =>
        -- an array without elements ends where the second should be
        obtain ⟨r, -, -, rfl⟩ | ⟨-, _, ⟨⟩, _⟩ := readElement_true_eq_ok_iff.mp hvisibility
        rw [readElement_of_closing (skipSpace_cons (by decide))] at hreturnType
        cases hreturnType
    | some visibility =>
        obtain ⟨hs₁, v, hv, hwithin⟩ := Visibility.readsOnly_readOptional.firstElement hs hvisibility
        obtain ⟨hs₂, _, rfl, hbehind₁⟩ := readsOnly_readString.nextElement hs₁ hreturnType
        obtain ⟨hs₃, _, rfl, hbehind₂⟩ := readsOnly_readString.nextElement hs₂ hname
        obtain ⟨hrest, vs, hvs, hbehind₃⟩ := Param.readsOnly_readList.lastElement hs₃ hparams hend
        exact ⟨hrest, _, hwithin _ _ (hbehind₁ _ _ (hbehind₂ _ _ hbehind₃)),
          .fields (hjoin ▸ hv) (hgetD ▸ hvs.atMostOne)⟩

/-- **A signature is read from all that describes it.** -/
theorem readsAll_read : ReadsAll n read DescribedBy := by
  rw [read_eq_readRecord]
  refine ReadsAll.readRecord ?_ ?_
  · intro ms t rest d ht hms
    obtain ⟨given, hsteps, hmake⟩ := membersDescribe_iff.mp hms
    exact readObject_eq_ok_iff.mpr
      ⟨given, readsAll_readMember.readObject ht (Nat.le_refl _) hsteps, hmake⟩
  · rintro _ s rest d hs ⟨hv, hparams⟩
    obtain ⟨params, hvs, hgetD⟩ := hparams.exists_given
    obtain ⟨s₁, hvisibility, hs₁, hn⟩ :=
      Visibility.readsAll_readOptional.firstElement hs (Nat.le_refl _) hv
    obtain ⟨s₂, hreturnType, hs₂, hn⟩ := readsAll_readString.nextElement hs₁ hn rfl
    obtain ⟨s₃, hname, hs₃, hn⟩ := readsAll_readString.nextElement hs₂ hn rfl
    obtain ⟨s₄, hparams, hend⟩ := Param.readsAll_readList.lastElement hs₃ hn hvs
    exact readElements_eq_ok_iff.mpr ⟨some d.visibility, s₁, s₂, s₃, params, s₄, hvisibility, hreturnType,
      hname, hparams, hend, rfl, hgetD⟩

end Signature

/-! ## Documents -/

/-- **The reader of signatures accepts exactly its format.** In a text where no escaped surrogate stands
    alone, a signature is read if and only if the text is one document whose value describes it. -/
theorem Signature.ofJson_eq_ok_iff_isDocument {text : String} (h : SurrogatesPaired text.toList)
    (d : Signature) :
    Signature.ofJson text = .ok d ↔ ∃ v, IsDocument v text.toList ∧ d.DescribedBy v :=
  readAll_eq_ok_iff_isDocument readsOnly_read readsAll_read h

/-- A key with an escape, a member that no field has a place for, and a pair of surrogates. -/
theorem Signature.ofJson_eq_ok_iff_isDocument_escaped :
    ∃ v, IsDocument v ("\x7b\"method\\u004eame\":\"f\", \"x\":[1e5],\"returnType\":\"\\ud83d\\ude00\"," ++
        "\"arguments\" : [[\"T\",\"a\"]]\x7d").toList ∧
      (⟨none, "😀", "f", [⟨"T", "a"⟩]⟩ : Signature).DescribedBy v := by
  refine (Signature.ofJson_eq_ok_iff_isDocument ?_ _).mp (eq_ok_of_toOption (by decide +kernel))
  refine Eq.subst (motive := SurrogatesPaired)
    (a := "\x7b\"method".toList ++ '\\' :: 'u' :: '0' :: '0' :: '4' :: 'e' ::
      ("ame\":\"f\", \"x\":[1e5],\"returnType\":\"".toList ++
        '\\' :: 'u' :: 'd' :: '8' :: '3' :: 'd' :: '\\' :: 'u' :: 'd' :: 'e' :: '0' :: '0' ::
          ("\",\"arguments\" : [[\"T\",\"a\"]]\x7d".toList ++ []))) (by decide +kernel) ?_
  exact .append (.code rfl rfl rfl (.append (.pair rfl rfl rfl rfl (.append .nil (by decide))) (by decide)))
    (by decide)

end MethodSig
