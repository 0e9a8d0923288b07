/-!
# `Literal` — reading the text of a JSON string

A string literal is a sequence of units between quotes: characters as they stand, escapes of one
letter, and escapes `\uXXXX` that give a UTF-16 code unit by its number. Its meaning is a sequence
of characters: a high and a low surrogate unit that follow each other stand for one character, and a
surrogate unit without its partner stands for none.

Reading a literal and finding its meaning are two steps, because a literal whose value nobody asks
for need not mean anything.
-/

namespace MethodSig.Json

/-- A unit of a string literal. -/
inductive LiteralUnit where
  /-- A character. -/
  | char (c : Char)
  /-- A UTF-16 code unit given by its number. -/
  | code (n : Nat)

/-! ## Units -/

/-- The value of a digit in base sixteen, in either case. -/
def hexValue? (c : Char) : Option Nat :=
  if '0' ≤ c ∧ c ≤ '9' then some (c.toNat - '0'.toNat)
  else if 'a' ≤ c ∧ c ≤ 'f' then some (c.toNat - 'a'.toNat + 10)
  else if 'A' ≤ c ∧ c ≤ 'F' then some (c.toNat - 'A'.toNat + 10)
  else none

/-- The number of four digits in base sixteen at the front of `s`, and what follows. -/
def code? : List Char → Option (Nat × List Char)
  | a :: b :: c :: d :: rest => do
    let a ← hexValue? a
    let b ← hexValue? b
    let c ← hexValue? c
    let d ← hexValue? d
    return (((a * 16 + b) * 16 + c) * 16 + d, rest)
  | _ => none

/-- The character that a letter stands for behind a backslash. -/
def letterEscape? (c : Char) : Option Char :=
  if c = '"' ∨ c = '\\' ∨ c = '/' then some c
  else if c = 'b' then some '\x08'
  else if c = 'f' then some '\x0c'
  else if c = 'n' then some '\n'
  else if c = 'r' then some '\r'
  else if c = 't' then some '\t'
  else none

/-- The unit that is escaped by what stands behind a backslash. -/
def escape? : List Char → Option (LiteralUnit × List Char)
  | [] => none
  | c :: rest =>
    if c = 'u' then (code? rest).map fun (n, rest) => (.code n, rest)
    else (letterEscape? c).map fun c => (.char c, rest)

/-- The unit at the front of `s`. A control below U+0020 is none. -/
def unit? : List Char → Option (LiteralUnit × List Char)
  | [] => none
  | c :: rest =>
    if c = '\\' then escape? rest
    else if c.toNat < 0x20 then none
    else some (.char c, rest)

theorem length_lt_of_code? {s rest : List Char} {n : Nat} (h : code? s = some (n, rest)) :
    rest.length < s.length := by
  unfold code? at h
  split at h
  · simp only [Option.bind_eq_bind, Option.bind_eq_some_iff, Option.pure_def, Option.some.injEq,
      Prod.mk.injEq] at h
    obtain ⟨_, _, _, _, _, _, _, _, -, rfl⟩ := h
    simp only [List.length_cons]
    omega
  · cases h

theorem length_lt_of_escape? {s rest : List Char} {u : LiteralUnit}
    (h : escape? s = some (u, rest)) : rest.length < s.length := by
  cases s with
  | nil => cases h
  | cons c s =>
    rw [escape?] at h
    split at h
    · obtain ⟨⟨n, r⟩, hn, he⟩ := Option.map_eq_some_iff.1 h
      cases he
      exact Nat.lt_succ_of_lt (length_lt_of_code? hn)
    · obtain ⟨d, -, he⟩ := Option.map_eq_some_iff.1 h
      cases he
      exact Nat.lt_succ_self _

theorem length_lt_of_unit? {s rest : List Char} {u : LiteralUnit}
    (h : unit? s = some (u, rest)) : rest.length < s.length := by
  cases s with
  | nil => cases h
  | cons c s =>
    rw [unit?] at h
    split at h
    · exact Nat.lt_succ_of_lt (length_lt_of_escape? h)
    · split at h <;> cases h
      exact Nat.lt_succ_self _

/-- The units up to the closing quote, and what follows it. `s` begins behind the opening quote. -/
def units? (s : List Char) : Option (List LiteralUnit × List Char) :=
  match s with
  | [] => none
  | c :: rest =>
    if c = '"' then some ([], rest)
    else
      match _h : unit? (c :: rest) with
      | none => none
      | some (u, rest) => (units? rest).map fun (us, rest) => (u :: us, rest)
termination_by s.length
decreasing_by exact length_lt_of_unit? _h

@[simp] theorem units?_nil : units? [] = none := by
  rw [units?]

/-- A quote ends the literal. -/
@[simp] theorem units?_quote (s : List Char) : units? ('"' :: s) = some ([], s) := by
  rw [units?]
  rfl

/-- Before that, one unit follows the other. -/
theorem units?_of_unit? {s rest : List Char} {u : LiteralUnit} (hq : s.head? ≠ some '"')
    (h : unit? s = some (u, rest)) :
    units? s = (units? rest).map fun (us, rest) => (u :: us, rest) := by
  cases s with
  | nil => cases h
  | cons c s =>
    have hc : c ≠ '"' := fun e => hq (e ▸ rfl)
    rw [units?, if_neg hc]
    split
    · rename_i h'
      rw [h] at h'
      cases h'
    · rename_i h'
      rw [h] at h'
      cases h'
      rfl

/-! ## Meaning -/

/-- Whether `n` is the first unit of a surrogate pair. -/
def isHighSurrogate (n : Nat) : Bool := 0xD800 ≤ n && n ≤ 0xDBFF

/-- Whether `n` is the second unit of a surrogate pair. -/
def isLowSurrogate (n : Nat) : Bool := 0xDC00 ≤ n && n ≤ 0xDFFF

/-- The character of a surrogate pair. -/
def ofSurrogates (high low : Nat) : Char :=
  Char.ofNat (0x10000 + (high - 0xD800) * 0x400 + (low - 0xDC00))

/-- The characters that a sequence of units stands for; `none` where a surrogate stands alone. -/
def meaning? : List LiteralUnit → Option (List Char)
  | [] => some []
  | .char c :: us => (meaning? us).map (c :: ·)
  | .code n :: us =>
    if isHighSurrogate n then
      match us with
      | .code m :: us =>
        if isLowSurrogate m then (meaning? us).map (ofSurrogates n m :: ·) else none
      | _ => none
    else if isLowSurrogate n then none
    else (meaning? us).map (Char.ofNat n :: ·)

/-- The characters of a literal up to its closing quote, and what follows it. -/
def literal? (s : List Char) : Option (List Char × List Char) := do
  let (us, rest) ← units? s
  let chars ← meaning? us
  return (chars, rest)

end MethodSig.Json
