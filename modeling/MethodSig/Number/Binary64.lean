/-!
# `Binary64` — rounding to double precision

A finite double is an integer of at most 53 bits times a power of two between `2 ^ -1074` and
`2 ^ 971`. Every operation here is exact arithmetic on natural numbers followed by one rounding to
the nearest double, a tie going to the even mantissa. Signs are kept apart by the callers, so the
numbers are not negative.
-/

namespace MethodSig

/-- The double `mantissa * 2 ^ exponent`. -/
structure Binary64 where
  /-- The integer factor, below `2 ^ 53`; at least `2 ^ 52` unless the exponent is least. -/
  mantissa : Nat
  /-- The power of two, at least `-1074`. -/
  exponent : Int
deriving DecidableEq

namespace Binary64

/-- The least exponent of a double. -/
def minExponent : Int := -1074

/-- The greatest exponent of a finite double. -/
def maxExponent : Int := 971

/-- The quotient `num / den` rounded to the nearest integer, a tie to the even one. -/
def roundDiv (num den : Nat) : Nat :=
  let q := num / den
  let r := num % den
  if 2 * r < den then q
  else if den < 2 * r then q + 1
  else if q % 2 = 0 then q else q + 1

/-- `num / den / 2 ^ e` as a fraction. -/
def shifted (num den : Nat) (e : Int) : Nat × Nat :=
  if e < 0 then (num * Nat.pow 2 e.natAbs, den) else (num, den * Nat.pow 2 e.natAbs)

/-- The exponent for `num / den`: the one that leaves 53 bits before the point, but at least the
least one. -/
def exponentFor (num den : Nat) : Int :=
  let e : Int := (num.log2 : Int) - (den.log2 : Int) - 53
  let (n, d) := shifted num den e
  max minExponent (if n / d < Nat.pow 2 53 then e else e + 1)

/-- The double nearest to `num / den`; `none` where that lies beyond the greatest double. -/
def ofRatio (num den : Nat) : Option Binary64 :=
  if num = 0 then some ⟨0, minExponent⟩
  else
    let e := exponentFor num den
    let (n, d) := shifted num den e
    let m := roundDiv n d
    let rounded : Binary64 := if m = Nat.pow 2 53 then ⟨Nat.pow 2 52, e + 1⟩ else ⟨m, e⟩
    if maxExponent < rounded.exponent then none else some rounded

/-- A double as a fraction. -/
def toRatio (x : Binary64) : Nat × Nat :=
  if x.exponent < 0 then (x.mantissa, Nat.pow 2 x.exponent.natAbs)
  else (x.mantissa * Nat.pow 2 x.exponent.natAbs, 1)

/-- The double nearest to the natural number `n`. -/
def ofNat (n : Nat) : Option Binary64 := ofRatio n 1

/-- The product, rounded. -/
def mul (x y : Binary64) : Option Binary64 :=
  let (a, b) := x.toRatio
  let (c, d) := y.toRatio
  ofRatio (a * c) (b * d)

/-- The quotient, rounded. The divisor is not zero. -/
def div (x y : Binary64) : Option Binary64 :=
  let (a, b) := x.toRatio
  let (c, d) := y.toRatio
  ofRatio (a * d) (b * c)

end Binary64

end MethodSig
