import MethodSig.Proofs.Json.Extended
import MethodSig.Proofs.Json.Fields

/-!
# `Proofs.Json.Streaming` — the first problem decides

A reader never looks back and no further than it needs. So a text that goes on is read in the same way as
far as the text went: what was read stays, and a mismatch that was met stays what it was
(`Outlives`, `Streams`). Only the error that the text is not JSON may turn into anything else, since a text
can be broken for want of what follows.

Every reader streams if its parts do, with one bound in the way: the room for elements and the depth of
values are counted down from the length of the text. A longer text gives more of both, so the lemmas about
these loops compare a reader with one that has more room.
-/

namespace MethodSig.Json

/-! ## Outliving more text -/

/-- **What outlives more text.** A result stays, up to `R`, and a mismatch stays. -/
inductive Outlives {α β : Type} (R : α → β → Prop) : Except ReadError α → Except ReadError β → Prop
  | ok {a : α} {b : β} (h : R a b) : Outlives R (.ok a) (.ok b)
  | mismatch {m : Mismatch} : Outlives R (.error (.mismatch m)) (.error (.mismatch m))
  | malformed {y : Except ReadError β} : Outlives R (.error .malformed) y

/-- What is left of a text is left of the longer one, with what was added. -/
inductive Longer (u : List Char) : List Char → List Char → Prop
  | mk {s : List Char} (h : StopsBack Char.isDigit s) : Longer u s (s ++ u)

/-- The same result, and more text left. -/
inductive Leaves {α : Type} (u : List Char) : α × List Char → α × List Char → Prop
  | mk {a : α} {s : List Char} (h : StopsBack Char.isDigit s) : Leaves u (a, s) (a, s ++ u)

/-- **Reading goes on as it began** when the text goes on, by `read'` where `read` was. -/
def Streams {α : Type} (read read' : Reader α) : Prop :=
  ∀ s u, StopsBack Char.isDigit s → Outlives (Leaves u) (read s) (read' (s ++ u))

variable {α β γ δ : Type} {R : α → β → Prop} {S : γ → δ → Prop} {s u rest : List Char}
  {read read' item item' : Reader α} {room room' depth depth' : Nat}

/-- One step after another. -/
theorem Outlives.bind {x : Except ReadError α} {y : Except ReadError β} {f : α → Except ReadError γ}
    {g : β → Except ReadError δ} (h : Outlives R x y) (hnext : ∀ a b, R a b → Outlives S (f a) (g b)) :
    Outlives S (x >>= f) (y >>= g) := by
  cases h with
  | ok h => exact hnext _ _ h
  | mismatch => exact .mismatch
  | malformed => exact .malformed

theorem Outlives.refl (x : Except ReadError α) : Outlives Eq x x := by
  cases x with
  | ok a => exact .ok rfl
  | error e =>
      cases e with
      | malformed => exact .malformed
      | mismatch m => exact .mismatch

/-- A step after reading that only puts the result into another form. -/
theorem Outlives.bind_pure {x y : Except ReadError (α × List Char)} (f : α → γ)
    (h : Outlives (Leaves u) x y) :
    Outlives (Leaves u) (x >>= fun p => .ok (f p.1, p.2)) (y >>= fun p => .ok (f p.1, p.2)) :=
  h.bind fun _ _ ⟨hs⟩ => .ok (.mk hs)

/-! ## Parts -/

/-- Behind the blanks the text is used up, or there is a first character, and it stays. -/
theorem skipSpace_cases (hs : StopsBack Char.isDigit s) (u : List Char) :
    skipSpace s = [] ∨ ∃ c r, skipSpace s = c :: r ∧ skipSpace (s ++ u) = c :: (r ++ u) ∧
      StopsBack Char.isDigit (c :: r) := by
  obtain ⟨w, hw, hskip⟩ := eq_append_skipSpace s
  cases h : skipSpace s with
  | nil => exact Or.inl rfl
  | cons c r =>
      rw [h] at hskip
      have hc : isSpace c = false := by
        have hhead := List.head?_dropWhile_not isSpace s
        rw [show s.dropWhile isSpace = c :: r from h] at hhead
        exact hhead
      refine Or.inr ⟨c, r, rfl, ?_, ?_⟩
      · rw [hskip, List.append_assoc, List.cons_append, skipSpace_append_cons hw hc]
      · rw [hskip] at hs
        exact hs.of_append

theorem outlives_wrongKind (expected : Expected) (hs : StopsBack Char.isDigit s) :
    Outlives R (.error (wrongKind expected s)) (.error (wrongKind expected (s ++ u))) := by
  unfold wrongKind
  cases h : found? s with
  | none => exact .malformed
  | some f =>
      rw [found?_append hs h u]
      exact .mismatch

theorem outlives_readColon (hs : StopsBack Char.isDigit s) :
    Outlives (Longer u) (readColon s) (readColon (s ++ u)) := by
  unfold readColon
  obtain hnil | ⟨c, r, hc, hc', hr⟩ := skipSpace_cases hs u
  · rw [hnil]
    exact .malformed
  · rw [hc, hc']
    split
    · rename_i heq
      cases heq
      exact .ok (.mk hr.tail)
    · exact .malformed

theorem streams_readString : Streams readString readString := by
  intro s u hs
  unfold readString
  obtain hnil | ⟨c, r, hc, hc', hr⟩ := skipSpace_cases hs u
  · rw [hnil]
    exact .malformed
  · rw [hc, hc']
    split
    · rename_i heq
      cases heq
      cases h : literal? r with
      | none => exact .malformed
      | some p =>
          obtain ⟨cs, rest⟩ := p
          obtain ⟨hsuffix, happend⟩ := literal?_append h
          simp only [happend u]
          exact .ok (.mk (hr.tail.of_suffix hsuffix))
    · rename_i hquote
      split
      · rename_i heq
        cases heq
        exact absurd rfl (hquote _)
      · exact outlives_wrongKind .text hr

/-! ## Arrays and objects -/

theorem Streams.readItems (hitem : Streams item item') (hroom : room ≤ room') :
    Streams (readItems item room) (readItems item' room') := by
  induction room generalizing room' with
  | zero => exact fun _ _ _ => .malformed
  | succ room ih =>
      obtain ⟨room', rfl⟩ : ∃ r, room' = r + 1 := ⟨room' - 1, by omega⟩
      have hothers := ih (Nat.le_of_succ_le_succ hroom)
      intro s u hs
      refine (hitem s u hs).bind ?_
      rintro _ _ @⟨a, rest, hrest⟩
      -- behind the element: more elements, the closing bracket, or no array
      obtain hnil | ⟨c, r, hc, hc', hr⟩ := skipSpace_cases hrest u
      · simp only [hnil]
        exact .malformed
      · simp only [hc, hc']
        split
        · rename_i heq
          cases heq
          exact (hothers _ u hr.tail).bind_pure (a :: ·)
        · rename_i heq
          cases heq
          exact .ok (.mk hr.tail)
        · exact .malformed

theorem Streams.readArray (hitem : Streams item item') : Streams (readArray item) (readArray item') := by
  intro s u hs
  unfold Json.readArray
  obtain hnil | ⟨c, r, hc, hc', hr⟩ := skipSpace_cases hs u
  · rw [hnil]
    exact .malformed
  · rw [hc, hc']
    split
    · rename_i heq
      cases heq
      exact .ok (.mk hr.tail)
    · rename_i hclose
      split
      · rename_i heq
        cases heq
        exact absurd rfl (hclose _)
      · exact hitem.readItems (by simp) _ u hr

section Objects

variable {σ : Type} {member member' : σ → List LiteralUnit → Reader σ}

theorem streams_readMembers (hmember : ∀ state key, Streams (member state key) (member' state key))
    (hroom : room ≤ room') (state : σ) :
    Streams (readMembers member room state) (readMembers member' room' state) := by
  induction room generalizing room' state with
  | zero => exact fun _ _ _ => .malformed
  | succ room ih =>
      obtain ⟨room', rfl⟩ : ∃ r, room' = r + 1 := ⟨room' - 1, by omega⟩
      intro s u hs
      rw [readMembers.eq_def, readMembers.eq_def]
      dsimp only
      obtain hnil | ⟨c, r, hc, hc', hr⟩ := skipSpace_cases hs u
      · rw [hnil]
        exact .malformed
      · rw [hc, hc']
        split
        · rename_i heq
          cases heq
          cases hkey : units? r with
          | none => exact .malformed
          | some p =>
              obtain ⟨key, rest⟩ := p
              obtain ⟨hsuffix, happend⟩ := units?_append hkey
              simp only [happend u]
              refine (hmember state key rest u (hr.tail.of_suffix hsuffix)).bind ?_
              rintro _ _ @⟨state₁, rest₁, hrest⟩
              obtain hnil | ⟨c, r, hc, hc', hr⟩ := skipSpace_cases hrest u
              · simp only [hnil]
                exact .malformed
              · simp only [hc, hc']
                split
                · rename_i heq
                  cases heq
                  exact ih (Nat.le_of_succ_le_succ hroom) state₁ _ u hr.tail
                · rename_i heq
                  cases heq
                  exact .ok (.mk hr.tail)
                · exact .malformed
        · exact .malformed

theorem streams_readObject (hmember : ∀ state key, Streams (member state key) (member' state key))
    (state : σ) : Streams (readObject member state) (readObject member' state) := by
  intro s u hs
  unfold readObject
  obtain hnil | ⟨c, r, hc, hc', hr⟩ := skipSpace_cases hs u
  · rw [hnil]
    exact .malformed
  · rw [hc, hc']
    split
    · rename_i heq
      cases heq
      exact .ok (.mk hr.tail)
    · rename_i hclose
      split
      · rename_i heq
        cases heq
        exact absurd rfl (hclose _)
      · exact streams_readMembers hmember (by simp) state _ u hr

end Objects

/-! ## Values that nobody asks for -/

/-- A scalar that is passed over is no mismatch. -/
theorem skipScalar_ne_mismatch {m : Mismatch} : skipScalar s ≠ .error (.mismatch m) := by
  intro h
  cases s with
  | nil => cases h
  | cons c s =>
      rw [skipScalar] at h
      split_ifs at h
      all_goals split at h <;> cases h

theorem streams_skipScalar : Streams skipScalar skipScalar := by
  intro s u hs
  cases h : skipScalar s with
  | ok p =>
      obtain ⟨a, rest⟩ := p
      obtain ⟨hrest, happend⟩ := skipScalar_append hs h
      rw [happend u]
      exact .ok (.mk hrest)
  | error e =>
      cases e with
      | malformed => exact .malformed
      | mismatch m => exact absurd h skipScalar_ne_mismatch

/-- A value behind a colon. -/
theorem Streams.behindColon (hread : Streams read read') :
    Streams (fun s => readColon s >>= read) (fun s => readColon s >>= read') :=
  fun _ u hs => (outlives_readColon hs).bind fun _ _ ⟨hrest⟩ => hread _ u hrest

theorem streams_skipWithin (hdepth : depth ≤ depth') : Streams (skipWithin depth) (skipWithin depth') := by
  induction depth generalizing depth' with
  | zero => exact fun _ _ _ => .malformed
  | succ depth ih =>
      obtain ⟨depth', rfl⟩ : ∃ d, depth' = d + 1 := ⟨depth' - 1, by omega⟩
      have hwithin := ih (Nat.le_of_succ_le_succ hdepth)
      intro s u hs
      rw [skipWithin, skipWithin]
      obtain hnil | ⟨c, r, hc, hc', hr⟩ := skipSpace_cases hs u
      · rw [hnil]
        exact .malformed
      · rw [hc, hc']
        split
        · rename_i heq
          cases heq
          exact (hwithin.readArray _ u hr.tail).bind_pure fun _ => ()
        · rename_i heq
          cases heq
          exact streams_readObject (fun _ _ => hwithin.behindColon) () _ u hr.tail
        · rename_i harray hobject
          split
          · rename_i heq
            cases heq
            exact absurd rfl (harray _)
          · rename_i heq
            cases heq
            exact absurd rfl (hobject _)
          · exact streams_skipScalar _ u hr

theorem streams_skipValue : Streams skipValue skipValue :=
  fun s u hs => streams_skipWithin (by simp) s u hs

/-! ## Fields and records -/

theorem Streams.readField {name : String} (hread : Streams read read') (o : Option α) :
    Streams (readField name o read) (readField name o read') := by
  intro s u hs
  cases o with
  | some a => exact .mismatch
  | none => exact (outlives_readColon hs).bind fun _ _ ⟨hrest⟩ => (hread _ u hrest).bind_pure some

theorem streams_skipField : Streams skipField skipField :=
  fun s u hs => streams_skipValue.behindColon s u hs

/-- An element, by a reader that finds no value where the text is used up. -/
theorem Streams.readElement (hread : Streams read read') (hnil : read [] = .error .malformed)
    (isFirst : Bool) : Streams (readElement isFirst read) (readElement isFirst read') := by
  intro s u hs
  obtain hend | ⟨c, r, hc, hc', hr⟩ := skipSpace_cases hs u
  · -- the element that is missing here may come with `u`
    have hmalformed : MethodSig.readElement isFirst read s = .error .malformed := by
      cases isFirst with
      | true =>
          rw [readElement_true (by simp [hend]), hend, hnil]
          rfl
      | false => exact readElement_false_of_other (by simp [hend]) (by simp [hend])
    rw [hmalformed]
    exact .malformed
  · by_cases hclose : c = ']'
    · subst hclose
      rw [readElement_of_closing hc, readElement_of_closing hc']
      exact .ok (.mk hr)
    · cases isFirst with
      | true =>
          rw [readElement_true (by simp [hc, hclose]), readElement_true (by simp [hc', hclose]), hc, hc']
          exact (hread _ u hr).bind_pure some
      | false =>
          by_cases hcomma : c = ','
          · subst hcomma
            rw [readElement_false hc, readElement_false hc']
            exact (hread _ u hr.tail).bind_pure some
          · rw [readElement_false_of_other (by simp [hc, hclose]) (by simp [hc, hcomma])]
            exact .malformed

theorem outlives_readArrayEnd (hs : StopsBack Char.isDigit s) :
    Outlives (Longer u) (readArrayEnd s) (readArrayEnd (s ++ u)) := by
  unfold readArrayEnd
  obtain hnil | ⟨c, r, hc, hc', hr⟩ := skipSpace_cases hs u
  · rw [hnil]
    exact .malformed
  · rw [hc, hc']
    split
    · rename_i heq
      cases heq
      exact .ok (.mk hr.tail)
    · exact .malformed

theorem Streams.readRecord {object array : Reader α} (hobject : Streams object object)
    (harray : Streams array array) (expected : Expected) :
    Streams (readRecord object array expected) (readRecord object array expected) := by
  intro s u hs
  unfold Json.readRecord
  obtain hnil | ⟨c, r, hc, hc', hr⟩ := skipSpace_cases hs u
  · rw [hnil]
    exact .malformed
  · rw [hc, hc']
    split
    · rename_i heq
      cases heq
      exact hobject _ u hr.tail
    · rename_i heq
      cases heq
      exact harray _ u hr.tail
    · rename_i hbrace hbracket
      split
      · rename_i heq
        cases heq
        exact absurd rfl (hbrace _)
      · rename_i heq
        cases heq
        exact absurd rfl (hbracket _)
      · exact outlives_wrongKind expected hr

/-! ## Whole texts -/

/-- **A mismatch in a text that goes on is the mismatch of the whole.** -/
theorem Streams.readAll_append {text more : String} {m : Mismatch} (hread : Streams read read)
    (htext : StopsBack Char.isDigit text.toList) (h : readAll read text = .error (.mismatch m)) :
    readAll read (text ++ more) = .error (.mismatch m) := by
  have houtlives := hread text.toList more.toList htext
  unfold readAll at h ⊢
  rw [String.toList_append]
  generalize read text.toList = x at h houtlives
  generalize read (text.toList ++ more.toList) = y at houtlives ⊢
  cases houtlives with
  | ok hleaves =>
      -- a value was read, and what is behind it can only be blanks or no JSON
      obtain ⟨hrest⟩ := hleaves
      obtain hnil | ⟨c, r, hc, -⟩ := skipSpace_cases hrest more.toList
      · simp [bind, Except.bind, pure, Except.pure, hnil] at h
      · simp [bind, Except.bind, hc] at h
  | mismatch => exact h
  | malformed => cases h

end MethodSig.Json

namespace MethodSig

open Json

/-! ## Visibilities, parameters and signatures -/

theorem Visibility.streams_read : Streams Visibility.read Visibility.read := by
  intro s u hs
  refine (streams_readString s u hs).bind ?_
  rintro _ _ @⟨word, rest, hrest⟩
  dsimp only
  cases ofKeyword? word with
  | none => exact .mismatch
  | some v => exact .ok (.mk hrest)

theorem Visibility.streams_readOptional : Streams readOptional readOptional := by
  intro s u hs
  unfold readOptional
  obtain hnil | ⟨c, r, hc, hc', hr⟩ := skipSpace_cases hs u
  · rw [hnil]
    exact .malformed
  · rw [hc, hc']
    split
    · rename_i heq
      cases heq
      dsimp only
      split
      · rename_i hword
        have hword' := isPrefixOf_append hword u
        obtain ⟨rest, rfl⟩ := List.isPrefixOf_iff_prefix.mp hword
        simp only [hword', if_true]
        exact .ok (.mk hr.tail.of_append)
      · exact .malformed
    · rename_i hn
      split
      · rename_i heq
        cases heq
        exact absurd rfl (hn _)
      · exact (streams_read _ u hr).bind_pure some

namespace Param

theorem streams_readMember (given : Fields) (key : List LiteralUnit) :
    Streams (readMember given key) (readMember given key) := by
  intro s u hs
  unfold readMember
  cases (meaning? key).map String.ofList with
  | none => exact .malformed
  | some name =>
      dsimp only
      split_ifs
      · exact (streams_readString.readField given.type s u hs).bind_pure fun type => { given with type }
      · exact (streams_readString.readField given.name s u hs).bind_pure fun name => { given with name }
      · exact (streams_skipField s u hs).bind_pure fun _ => given

theorem streams_readObject : Streams Param.readObject Param.readObject := by
  intro s u hs
  refine (Json.streams_readObject streams_readMember {} s u hs).bind ?_
  rintro _ _ @⟨given, rest, hrest⟩
  refine (Outlives.refl (required "type" given.type)).bind ?_
  rintro type _ rfl
  refine (Outlives.refl (required "name" given.name)).bind ?_
  rintro name _ rfl
  exact .ok (.mk hrest)

theorem streams_readElements : Streams readElements readElements := by
  intro s u hs
  refine (streams_readString.readElement rfl true s u hs).bind ?_
  rintro _ _ @⟨type, s₁, hs₁⟩
  refine (Outlives.refl (requiredElement 0 .param type)).bind ?_
  rintro type _ rfl
  refine (streams_readString.readElement rfl false s₁ u hs₁).bind ?_
  rintro _ _ @⟨name, s₂, hs₂⟩
  refine (Outlives.refl (requiredElement 1 .param name)).bind ?_
  rintro name _ rfl
  refine (outlives_readArrayEnd hs₂).bind ?_
  rintro _ _ ⟨hrest⟩
  exact .ok (.mk hrest)

theorem streams_read : Streams Param.read Param.read := by
  rw [read_eq_readRecord]
  exact streams_readObject.readRecord streams_readElements .param

theorem streams_readList : Streams readList readList := by
  intro s u hs
  unfold readList
  obtain hnil | ⟨c, r, hc, hc', hr⟩ := skipSpace_cases hs u
  · rw [hnil]
    exact .malformed
  · rw [hc, hc']
    split
    · rename_i heq
      cases heq
      exact streams_read.readArray _ u hr.tail
    · rename_i hbracket
      split
      · rename_i heq
        cases heq
        exact absurd rfl (hbracket _)
      · exact outlives_wrongKind .list hr

end Param

namespace Signature

theorem streams_readMember (given : Fields) (key : List LiteralUnit) :
    Streams (readMember given key) (readMember given key) := by
  intro s u hs
  unfold readMember
  cases (meaning? key).map String.ofList with
  | none => exact .malformed
  | some name =>
      dsimp only
      split_ifs
      · exact (Visibility.streams_readOptional.readField given.visibility s u hs).bind_pure
          fun visibility => { given with visibility }
      · exact (streams_readString.readField given.returnType s u hs).bind_pure
          fun returnType => { given with returnType }
      · exact (streams_readString.readField given.name s u hs).bind_pure fun name => { given with name }
      · exact (Param.streams_readList.readField given.params s u hs).bind_pure
          fun params => { given with params }
      · exact (streams_skipField s u hs).bind_pure fun _ => given

theorem streams_readObject : Streams Signature.readObject Signature.readObject := by
  intro s u hs
  refine (Json.streams_readObject streams_readMember {} s u hs).bind ?_
  rintro _ _ @⟨given, rest, hrest⟩
  refine (Outlives.refl (required "returnType" given.returnType)).bind ?_
  rintro returnType _ rfl
  refine (Outlives.refl (required "methodName" given.name)).bind ?_
  rintro name _ rfl
  exact .ok (.mk hrest)

theorem streams_readElements : Streams readElements readElements := by
  intro s u hs
  refine (Visibility.streams_readOptional.readElement rfl true s u hs).bind ?_
  rintro _ _ @⟨visibility, s₁, hs₁⟩
  refine (streams_readString.readElement rfl false s₁ u hs₁).bind ?_
  rintro _ _ @⟨returnType, s₂, hs₂⟩
  refine (Outlives.refl (requiredElement 1 .signature returnType)).bind ?_
  rintro returnType _ rfl
  refine (streams_readString.readElement rfl false s₂ u hs₂).bind ?_
  rintro _ _ @⟨name, s₃, hs₃⟩
  refine (Outlives.refl (requiredElement 2 .signature name)).bind ?_
  rintro name _ rfl
  refine (Param.streams_readList.readElement rfl false s₃ u hs₃).bind ?_
  rintro _ _ @⟨params, s₄, hs₄⟩
  refine (outlives_readArrayEnd hs₄).bind ?_
  rintro _ _ ⟨hrest⟩
  exact .ok (.mk hrest)

theorem streams_read : Streams Signature.read Signature.read := by
  rw [read_eq_readRecord]
  exact streams_readObject.readRecord streams_readElements .signature

end Signature

/-! ## The first problem decides -/

deriving instance DecidableEq for Found, Expected, Mismatch

/-- The mismatch that reading ended with. -/
def mismatch? {α : Type} : Except ReadError α → Option Mismatch
  | .error (.mismatch m) => some m
  | _ => none

theorem eq_error_of_mismatch? {α : Type} {x : Except ReadError α} {m : Mismatch}
    (h : mismatch? x = some m) : x = .error (.mismatch m) := by
  unfold mismatch? at h
  split at h
  · cases h
    rfl
  · cases h

/-- **A mismatch that was met is the answer**, whatever follows: for a signature, a parameter and a
    visibility, in a text that does not end with a digit. -/
theorem ofJson_append_mismatch {t : String} (ht : StopsBack Char.isDigit t.toList) (u : String)
    (m : Mismatch) :
    (Signature.ofJson t = .error (.mismatch m) → Signature.ofJson (t ++ u) = .error (.mismatch m)) ∧
      (Param.ofJson t = .error (.mismatch m) → Param.ofJson (t ++ u) = .error (.mismatch m)) ∧
      (Visibility.ofJson t = .error (.mismatch m) → Visibility.ofJson (t ++ u) = .error (.mismatch m)) :=
  ⟨Signature.streams_read.readAll_append ht, Param.streams_read.readAll_append ht,
    Visibility.streams_read.readAll_append ht⟩

/-- A number where a text should be and more garbage than JSON behind it, an array that ends too early, and
    a word that is no keyword. -/
theorem ofJson_append_mismatch_garbage :
    Signature.ofJson ("\x7b\"returnType\":12," ++ "]\"") = .error (.mismatch (.wrongKind (.integer 12) .text)) ∧
      Param.ofJson ("[\"T\"]" ++ ",\"a\"]") = .error (.mismatch (.tooShort 1 .param)) ∧
      Visibility.ofJson ("\"pub\"" ++ ":1") = .error (.mismatch (.unknownVisibility "pub")) := by
  refine ⟨(ofJson_append_mismatch ?_ _ _).1 ?_, (ofJson_append_mismatch ?_ _ _).2.1 ?_,
    (ofJson_append_mismatch ?_ _ _).2.2 ?_⟩
  · simp [StopsBack]
  · exact eq_error_of_mismatch? (by decide +kernel)
  · simp [StopsBack]
  · exact eq_error_of_mismatch? (by decide +kernel)
  · simp [StopsBack]
  · exact eq_error_of_mismatch? (by decide +kernel)

end MethodSig
