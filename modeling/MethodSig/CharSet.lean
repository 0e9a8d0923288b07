/-!
# `CharSet` — finite sets of characters, in order

A set of characters is kept as its members in strictly increasing code point order. That form is
unique: two sets with the same members are equal, whatever order or repetition they were built from,
so equality of sets decides equality of members.
-/

namespace MethodSig

/-- A finite set of characters: its members in strictly increasing order. -/
structure CharSet where
  /-- The members, smallest first, each once. -/
  toList : List Char
  /-- The members increase strictly. -/
  increasing : toList.Pairwise (· < ·)
deriving DecidableEq

namespace CharSet

/-! ## Building a set -/

/-- `c` put at its place among strictly increasing characters, unless it is there already. -/
def place (c : Char) : List Char → List Char
  | [] => [c]
  | d :: r => if c < d then c :: d :: r else if c = d then d :: r else d :: place c r

theorem mem_place {c x : Char} {l : List Char} : x ∈ place c l ↔ x = c ∨ x ∈ l := by
  induction l with
  | nil => simp [place]
  | cons d r ih =>
    rw [place]
    split
    · simp
    · split
      · rename_i _ h
        subst h
        simp
      · simp [ih, or_left_comm]

theorem increasing_place {c : Char} {l : List Char} (h : l.Pairwise (· < ·)) :
    (place c l).Pairwise (· < ·) := by
  induction l with
  | nil => simp [place]
  | cons d r ih =>
    obtain ⟨hd, hr⟩ := List.pairwise_cons.1 h
    rw [place]
    split
    · rename_i hcd
      refine List.pairwise_cons.2 ⟨fun x hx => ?_, h⟩
      rcases List.mem_cons.1 hx with rfl | hx
      · exact hcd
      · exact Char.lt_trans hcd (hd x hx)
    · split
      · exact h
      · rename_i hcd hne
        refine List.pairwise_cons.2 ⟨fun x hx => ?_, ih hr⟩
        rcases mem_place.1 hx with rfl | hx
        · exact Std.lt_of_le_of_ne (Char.not_lt.1 hcd) (Ne.symm hne)
        · exact hd x hx

/-- The set with no members. -/
def empty : CharSet := ⟨[], .nil⟩

/-- The set with the further member `c`. -/
def insert (c : Char) (s : CharSet) : CharSet := ⟨place c s.toList, increasing_place s.increasing⟩

/-- The set of the characters that occur in a list. -/
def ofList (l : List Char) : CharSet := l.foldr insert empty

/-! ## Asking a set -/

/-- Whether `c` is a member. -/
def contains (s : CharSet) (c : Char) : Bool := s.toList.contains c

/-- The number of members. -/
def size (s : CharSet) : Nat := s.toList.length

@[simp] theorem toList_empty : empty.toList = [] := rfl

theorem mem_toList_insert {c x : Char} {s : CharSet} :
    x ∈ (s.insert c).toList ↔ x = c ∨ x ∈ s.toList := mem_place

theorem mem_toList_ofList {x : Char} {l : List Char} : x ∈ (ofList l).toList ↔ x ∈ l := by
  induction l with
  | nil => simp [ofList]
  | cons c r ih =>
    rw [List.mem_cons, ← ih]
    exact mem_toList_insert

theorem contains_iff {s : CharSet} {c : Char} : s.contains c = true ↔ c ∈ s.toList := by
  simp [contains]

end CharSet

end MethodSig
