import MethodSig.Number.Shortest
import MethodSig.Scan

/-!
# `NumberLiteral` — reading a JSON number

A number is an optional minus, a whole part without needless zeros, and optionally a fraction and an
exponent. A whole number that fits into 64 bits is kept exactly, any other number as a double.

The double is found from the leading digits, as many as fit into 64 bits without a sign; the others
are dropped, those of the whole part adding to the exponent. That number is rounded to a double and
multiplied or divided by the double nearest to the power of ten, so the result can differ from the
nearest double in its last bit.
-/

namespace MethodSig.Json

/-- The parts of a number as it is written. -/
structure NumberLiteral where
  /-- Whether a minus stands in front. -/
  negative : Bool
  /-- The digits in front of the point. -/
  whole : List Char
  /-- The digits behind the point, if there is one. -/
  fraction : Option (List Char)
  /-- The exponent, if there is one: whether it is negative, and its digits. -/
  exponent : Option (Bool × List Char)

/-! ## Reading -/

/-- The digits at the front of `s`, at least one, and what follows. -/
def digits? (s : List Char) : Option (List Char × List Char) := run? Char.isDigit s

/-- The whole part: a zero alone, or digits that begin with another. -/
def whole? (s : List Char) : Option (List Char × List Char) :=
  match digits? s with
  | some ('0' :: _ :: _, _) => none
  | other => other

/-- The fraction, if a point is there. -/
def fraction? : List Char → Option (Option (List Char) × List Char)
  | '.' :: s => (digits? s).map fun (digits, rest) => (some digits, rest)
  | s => some (none, s)

/-- The sign of an exponent: whether it is negative, and what follows. -/
def exponentSign : List Char → Bool × List Char
  | '+' :: s => (false, s)
  | '-' :: s => (true, s)
  | s => (false, s)

/-- The exponent, if an `e` of either case is there. -/
def exponent? : List Char → Option (Option (Bool × List Char) × List Char)
  | [] => some (none, [])
  | c :: s =>
    if c = 'e' ∨ c = 'E' then
      let (negative, s) := exponentSign s
      (digits? s).map fun (digits, rest) => (some (negative, digits), rest)
    else some (none, c :: s)

/-- The sign of a number: whether a minus is there, and what follows. -/
def numberSign : List Char → Bool × List Char
  | '-' :: s => (true, s)
  | s => (false, s)

/-- The number at the front of `s`, and what follows. -/
def number? (s : List Char) : Option (NumberLiteral × List Char) := do
  let (negative, s) := numberSign s
  let (whole, s) ← whole? s
  let (fraction, s) ← fraction? s
  let (exponent, s) ← exponent? s
  return (⟨negative, whole, fraction, exponent⟩, s)

/-! ## Value -/

/-- The greatest number of 64 bits. -/
def maxWord : Nat := Nat.pow 2 64 - 1

/-- The value of a digit. -/
def digitValue (c : Char) : Nat := c.toNat - '0'.toNat

/-- `acc` with as many of the digits appended as fit into 64 bits, and the number of those left. -/
def leading (acc : Nat) : List Char → Nat × Nat
  | [] => (acc, 0)
  | c :: digits =>
    if acc * 10 + digitValue c ≤ maxWord then leading (acc * 10 + digitValue c) digits
    else (acc, (c :: digits).length)

/-- The number that digits write. -/
def natOfDigits (digits : List Char) : Nat :=
  digits.foldl (fun n c => n * 10 + digitValue c) 0

/-- `x` times `10 ^ e`, rounded at each step; `none` beyond the greatest double. A power of ten that
is itself too small for a double is reached in several steps. -/
def scaled (x : Binary64) (e : Int) : Nat → Option Binary64
  | 0 => none
  | steps + 1 =>
    if x.mantissa = 0 then some x
    else if 0 ≤ e then
      if e ≤ 308 then (Binary64.ofNat (Nat.pow 10 e.natAbs)).bind x.mul else none
    else if -308 ≤ e then (Binary64.ofNat (Nat.pow 10 e.natAbs)).bind x.div
    else ((Binary64.ofNat (Nat.pow 10 308)).bind x.div).bind fun y => scaled y (e + 308) steps

namespace NumberLiteral

/-- The written exponent. -/
def exponentValue (l : NumberLiteral) : Int :=
  match l.exponent with
  | none => 0
  | some (negative, digits) => if negative then -(natOfDigits digits : Int) else natOfDigits digits

/-- The double of a literal without its sign; `none` where it lies beyond the greatest. After four
steps of scaling a number is zero or done. -/
def double? (l : NumberLiteral) : Option Binary64 :=
  let (whole, dropped) := leading 0 l.whole
  let fraction := l.fraction.getD []
  let (significand, unused) := leading whole fraction
  let e : Int := dropped - (fraction.length - unused : Nat) + l.exponentValue
  (Binary64.ofNat significand).bind fun x => scaled x e 4

/-- The exact value of a whole number that fits into 64 bits, with or without a sign. A minus in
front of zero makes it a double. -/
def integer? (l : NumberLiteral) : Option Int :=
  let n := natOfDigits l.whole
  if l.fraction.isSome ∨ l.exponent.isSome then none
  else if l.negative then
    if 0 < n ∧ n ≤ Nat.pow 2 63 then some (-(n : Int)) else none
  else if n ≤ maxWord then some n else none

/-- The text of the double of a literal. -/
def doubleText? (l : NumberLiteral) : Option String :=
  l.double?.map fun x =>
    String.ofList ((if l.negative then ['-'] else []) ++ x.shortest.text)

end NumberLiteral

end MethodSig.Json
