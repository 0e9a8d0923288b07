import MethodSig.Proofs.Reading
import MethodSig.Rejection
import Mathlib.Data.Nat.Find

/-!
# `Proofs.Leftmost` — the signature that a text holds

The search tries every position from the left, and stops at the first one where `signature?` succeeds
(`findSignature?_eq_some_iff`). Since `signature?` finds exactly the readings, the signature that a
text holds is that of its leftmost reading (`findSignature?_eq_some_iff_leftmost`), and a text with a
reading anywhere holds a signature (`exists_findSignature?_iff`).
-/

namespace MethodSig

variable {s : List Char} {d : Signature} {ρ : Reading} {i : Nat}

/-! ## The search -/

@[simp] theorem signature?_nil : signature? [] = none := rfl

theorem findSignature?_of_signature? {rest : List Char} (h : signature? s = some (d, rest)) :
    findSignature? s = some d := by
  cases s with
  | nil => exact absurd h (by simp)
  | cons c s => rw [findSignature?, h]

theorem findSignature?_cons_of_none {c : Char} (h : signature? (c :: s) = none) :
    findSignature? (c :: s) = findSignature? s := by
  rw [findSignature?, h]

/-- **The search stops at the first signature.** -/
theorem findSignature?_eq_some_iff :
    findSignature? s = some d ↔
      ∃ i rest, signature? (s.drop i) = some (d, rest) ∧ ∀ j < i, signature? (s.drop j) = none := by
  induction s with
  | nil => simp [findSignature?]
  | cons c s ih =>
      cases hfront : signature? (c :: s) with
      | none =>
          -- the search goes on in the rest, where every position is one less
          rw [findSignature?_cons_of_none hfront, ih]
          constructor
          · rintro ⟨i, rest, hi, hbefore⟩
            refine ⟨i + 1, rest, hi, fun j hj => ?_⟩
            cases j with
            | zero => exact hfront
            | succ j => exact hbefore j (Nat.lt_of_succ_lt_succ hj)
          · rintro ⟨i, rest, hi, hbefore⟩
            cases i with
            | zero => rw [List.drop_zero, hfront] at hi; exact absurd hi (by simp)
            | succ i => exact ⟨i, rest, hi, fun j hj => hbefore (j + 1) (Nat.succ_lt_succ hj)⟩
      | some found =>
          obtain ⟨d', rest'⟩ := found
          rw [findSignature?_of_signature? hfront, Option.some.injEq]
          constructor
          · rintro rfl
            exact ⟨0, rest', hfront, fun j hj => absurd hj (Nat.not_lt_zero j)⟩
          · rintro ⟨i, rest, hi, hbefore⟩
            cases i with
            | zero => rw [List.drop_zero, hfront] at hi; cases hi; rfl
            | succ i =>
                have hzero := hbefore 0 (Nat.succ_pos i)
                rw [List.drop_zero, hfront] at hzero
                exact absurd hzero (by simp)

/-- The search fails where there is no signature anywhere. -/
theorem findSignature?_eq_none_iff : findSignature? s = none ↔ ∀ i, signature? (s.drop i) = none := by
  constructor
  · intro hnone i
    by_contra hi
    have hsome : ∃ i, signature? (s.drop i) ≠ none := ⟨i, hi⟩
    obtain ⟨⟨d, rest⟩, hd⟩ := Option.ne_none_iff_exists'.mp (Nat.find_spec hsome)
    have hbefore : ∀ j < Nat.find hsome, signature? (s.drop j) = none :=
      fun j hj => not_not.mp (Nat.find_min hsome hj)
    rw [findSignature?_eq_some_iff.mpr ⟨_, rest, hd, hbefore⟩] at hnone
    exact absurd hnone (by simp)
  · intro hnone
    cases hfound : findSignature? s with
    | none => rfl
    | some d =>
        obtain ⟨i, rest, hi, -⟩ := findSignature?_eq_some_iff.mp hfound
        rw [hnone i] at hi
        exact absurd hi (by simp)

/-! ## Readings in a text -/

namespace Reading

/-- A reading of the text from position `i` on. -/
def FitsAt (ρ : Reading) (s : List Char) (i : Nat) : Prop := ∃ rest, ρ.Fits (s.drop i) rest

/-- The same in terms of what stands before the reading. -/
theorem fitsAt_iff :
    ρ.FitsAt s i ↔ ')' ∉ ρ.body ∧ ∃ before heading rest, ρ.Heads heading ∧ before.length = i ∧
      s = before ++ (heading ++ '(' :: (ρ.body ++ ')' :: rest)) := by
  constructor
  · rintro ⟨rest, hbody, heading, hhead, hdrop⟩
    refine ⟨hbody, s.take i, heading, rest, hhead, ?_, ?_⟩
    · have hlen := congrArg List.length hdrop
      simp only [List.length_drop, List.length_append, List.length_cons] at hlen
      rw [List.length_take]
      omega
    · rw [← hdrop, List.take_append_drop]
  · rintro ⟨hbody, before, heading, rest, hhead, rfl, rfl⟩
    exact ⟨rest, hbody, heading, hhead, List.drop_left⟩

/-- Where the parts of a reading stand in a text, there is the reading. -/
theorem fitsAt_of_eq {visibility : Option Visibility} {before lead r b n body rest : List Char}
    (hlead : IsLead visibility lead) (hr : IsWord r) (hb : IsBlanks b) (hn : IsWord n)
    (hbody : ')' ∉ body)
    (hs : s = before ++ lead ++ r ++ b ++ n ++ '(' :: (body ++ ')' :: rest)) :
    FitsAt ⟨visibility, r, n, body⟩ s before.length :=
  fitsAt_iff.mpr ⟨hbody, before, _, rest, ⟨hr, hn, lead, b, hlead, hb, rfl⟩, rfl, by simp [hs]⟩

/-- The reading that counts: at the smallest position that has one, and there the one with a keyword if
    there is such a one. -/
structure IsLeftmost (ρ : Reading) (s : List Char) (i : Nat) : Prop where
  /-- The reading is one at `i`. -/
  fits : ρ.FitsAt s i
  /-- No reading is further to the left. -/
  least : ∀ j (σ : Reading), σ.FitsAt s j → i ≤ j
  /-- Without a keyword it is a reading only where none has a keyword. -/
  visible : ρ.visibility = none → ∀ σ : Reading, σ.FitsAt s i → σ.visibility = none

end Reading

theorem signature?_eq_none_iff : signature? s = none ↔ ∀ (ρ : Reading) rest, ¬ ρ.Fits s rest := by
  constructor
  · intro hnone ρ rest hfits
    rw [signature?_eq_some_iff.mpr ⟨ρ, hfits, rfl⟩] at hnone
    exact absurd hnone (by simp)
  · intro hnone
    cases hs : signature? s with
    | none => rfl
    | some found =>
        obtain ⟨ρ, hfits, -⟩ := signature?_eq_some_iff.mp hs
        exact absurd hfits (hnone ρ _)

/-- **All readings of one text say the same.** -/
theorem Reading.Fits.signature_eq {σ : Reading} {rest rest' : List Char} (hρ : ρ.Fits s rest)
    (hσ : σ.Fits s rest') : σ.signature = ρ.signature := by
  have h₁ := signature?_eq_some_iff.mpr ⟨ρ, hρ, rfl⟩
  have h₂ := signature?_eq_some_iff.mpr ⟨σ, hσ, rfl⟩
  rw [h₁, Option.some.injEq, Prod.mk.injEq] at h₂
  exact h₂.1.symm

/-- **The search finds the leftmost reading.** -/
theorem findSignature?_eq_some_iff_leftmost :
    findSignature? s = some d ↔ ∃ i ρ, Reading.IsLeftmost ρ s i ∧ ρ.signature = d := by
  rw [findSignature?_eq_some_iff]
  constructor
  · rintro ⟨i, rest, hi, hbefore⟩
    obtain ⟨ρ, hfits, rfl⟩ := signature?_eq_some_iff.mp hi
    refine ⟨i, ρ, ⟨⟨rest, hfits⟩, fun j σ hσ => ?_, fun hnone σ hσ => ?_⟩, rfl⟩
    · obtain ⟨rest', hσ⟩ := hσ
      by_contra hj
      exact signature?_eq_none_iff.mp (hbefore j (Nat.lt_of_not_le hj)) σ rest' hσ
    · obtain ⟨rest', hσ⟩ := hσ
      have hsame : σ.visibility = ρ.visibility :=
        congrArg Signature.visibility (hfits.signature_eq hσ)
      rw [hsame, hnone]
  · rintro ⟨i, ρ, ⟨⟨rest, hfits⟩, hleast, -⟩, rfl⟩
    refine ⟨i, rest, signature?_eq_some_iff.mpr ⟨ρ, hfits, rfl⟩, fun j hj => ?_⟩
    refine signature?_eq_none_iff.mpr fun σ rest' hσ => ?_
    exact Nat.not_le_of_lt hj (hleast j σ ⟨rest', hσ⟩)

/-- The search succeeds wherever in the text a reading is. -/
theorem exists_findSignature?_iff :
    (∃ d, findSignature? s = some d) ↔ ∃ i ρ, Reading.FitsAt ρ s i := by
  constructor
  · rintro ⟨d, hd⟩
    obtain ⟨i, ρ, hρ, -⟩ := findSignature?_eq_some_iff_leftmost.mp hd
    exact ⟨i, ρ, hρ.fits⟩
  · rintro ⟨i, ρ, rest, hfits⟩
    apply Option.ne_none_iff_exists'.mp
    intro hnone
    exact signature?_eq_none_iff.mp (findSignature?_eq_none_iff.mp hnone i) ρ rest hfits

/-! ## Parsing -/

theorem parse_eq_ok_iff {s : String} : Signature.parse s = .ok d ↔ findSignature? s.toList = some d := by
  unfold Signature.parse
  cases findSignature? s.toList <;> simp

/-- **Parsing reads the leftmost declaration.** A text is accepted exactly if some position of it has a
    reading, and the signature is that of the reading at the smallest such position, with a keyword
    rather than without. -/
theorem parse_eq_ok_iff_leftmost (s : String) :
    ((∃ d, Signature.parse s = .ok d) ↔ ∃ i ρ, Reading.FitsAt ρ s.toList i) ∧
      ∀ d, Signature.parse s = .ok d ↔
        ∃ i ρ, Reading.IsLeftmost ρ s.toList i ∧ ρ.signature = d := by
  simp only [parse_eq_ok_iff]
  exact ⟨exists_findSignature?_iff, fun d => findSignature?_eq_some_iff_leftmost⟩

end MethodSig
