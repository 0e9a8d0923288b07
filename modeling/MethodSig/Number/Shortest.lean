import MethodSig.Number.Binary64

/-!
# `Shortest` — the fewest decimal digits that name a double

Many decimals round to the same double. Its text uses one with as few digits as any, and of those
the nearest to the double; a tie goes to the even last digit.

The reals that round to a double form an interval: half the gap to its neighbour on either side, the
ends included exactly when the mantissa is even. For one digit, two digits and so on, at most
seventeen, the two decimals next to the double are tried; the first count for which one of them lies
in the interval is the answer.
-/

namespace MethodSig

/-- The decimal `digits * 10 ^ exponent`. -/
structure Decimal where
  /-- The digits as one number. -/
  digits : Nat
  /-- The power of ten. -/
  exponent : Int
deriving DecidableEq

/-- `digits * 10 ^ exponent`, where ten is written as a one. -/
def Decimal.ofDigits (digits : Nat) (exponent : Int) : Decimal :=
  if digits = 10 then ⟨1, exponent + 1⟩ else ⟨digits, exponent⟩

namespace Binary64

/-- The reals that round to a double, as fractions over a common denominator. -/
structure Interval where
  /-- Numerator of the lower end. -/
  low : Nat
  /-- Numerator of the double itself. -/
  mid : Nat
  /-- Numerator of the upper end. -/
  high : Nat
  /-- The common denominator. -/
  den : Nat
  /-- Whether the ends belong to it. -/
  closed : Bool

/-- The interval of a double other than zero. Below a power of two the gap is half as wide. -/
def interval (x : Binary64) : Interval :=
  let below := if x.mantissa = Nat.pow 2 52 ∧ minExponent < x.exponent then 1 else 2
  let (unit, den) := toRatio ⟨1, x.exponent⟩
  { low := (4 * x.mantissa - below) * unit
    mid := 4 * x.mantissa * unit
    high := (4 * x.mantissa + 2) * unit
    den := 4 * den
    closed := x.mantissa % 2 == 0 }

/-- Whether `n / d` lies in the interval. -/
def Interval.contains (i : Interval) (n d : Nat) : Bool :=
  if i.closed then i.low * d ≤ n * i.den && n * i.den ≤ i.high * d
  else i.low * d < n * i.den && n * i.den < i.high * d

/-- `10 ^ k` as a fraction. -/
def powerOfTen (k : Int) : Nat × Nat :=
  if k < 0 then (1, Nat.pow 10 k.natAbs) else (Nat.pow 10 k.natAbs, 1)

/-- The decimal of the form `digits * 10 ^ k` that is nearest to the middle of the interval among
those that lie in it. -/
def Interval.decimalAt? (i : Interval) (k : Int) : Option Decimal :=
  let (p, q) := powerOfTen k
  let n := i.mid * q
  let d := i.den * p
  let floor := n / d
  let inside := fun digits => i.contains (digits * p) q
  match inside floor, inside (floor + 1) with
  | true, true => some (.ofDigits (roundDiv n d) k)
  | true, false => some (.ofDigits floor k)
  | false, true => some (.ofDigits (floor + 1) k)
  | false, false => none

/-- The number of digits before the point of `n / d`, counted below zero for leading zeros behind
the point: the least `e` with `n / d < 10 ^ e`, searched downwards from `e`. -/
def magnitude (n d : Nat) : Nat → Int → Int
  | 0, e => e
  | steps + 1, e =>
    let (p, q) := powerOfTen (e - 1)
    if n * q < p * d then magnitude n d steps (e - 1) else e

/-- The first of the digit counts from `count` on that reaches the interval. -/
def shortestFrom (i : Interval) (e : Int) : Nat → Nat → Decimal
  | 0, count => ⟨roundDiv (i.mid * (powerOfTen (e - count)).2) (i.den * (powerOfTen (e - count)).1),
      e - count⟩
  | steps + 1, count => (i.decimalAt? (e - count)).getD (shortestFrom i e steps (count + 1))

/-- The shortest decimal of a double. -/
def shortest (x : Binary64) : Decimal :=
  if x.mantissa = 0 then ⟨0, 0⟩
  else
    let i := x.interval
    shortestFrom i (magnitude i.mid i.den 640 310) 17 1

end Binary64

namespace Decimal

/-- `n` zeros. -/
def zeros (n : Nat) : List Char := List.replicate n '0'

/-- The text of a decimal that is read as a double: positional from `1e-5` on and below `1e16`,
always with a point; otherwise one digit, the others behind a point, and the power of ten with its
sign. -/
def text (d : Decimal) : List Char :=
  if d.digits = 0 then "0.0".toList
  else
    let digits := Nat.toDigits 10 d.digits
    let point : Int := digits.length + d.exponent
    if 0 ≤ d.exponent ∧ point ≤ 16 then digits ++ zeros d.exponent.natAbs ++ ".0".toList
    else if 0 < point ∧ point ≤ 16 then
      digits.take point.natAbs ++ '.' :: digits.drop point.natAbs
    else if -5 < point ∧ point ≤ 0 then "0.".toList ++ zeros point.natAbs ++ digits
    else
      let sign := if 0 < point then ['+'] else []
      let power := 'e' :: (sign ++ (toString (point - 1)).toList)
      match digits with
      | [digit] => digit :: power
      | first :: others => first :: '.' :: (others ++ power)
      | [] => []

end Decimal

end MethodSig
