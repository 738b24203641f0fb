import Bookfinder.Number.Power

/-!
# Binary floating point as exact ratios

A finite `Float` is `± mantissa · 2 ^ exponent` with an integral mantissa (`Binary.ofFloat?`),
and the other way round every ratio of natural numbers has a nearest `Float`
(`Binary.nearest`): to it, a tie going to the even mantissa. Every number that the library
turns into a `Float` (an integer, a quotient of integers, a decimal) passes through `nearest`, so
each conversion rounds once.
-/

namespace Bookfinder

/-- A finite binary number `± mantissa · 2 ^ exponent`. -/
structure Binary where
  negative : Bool
  mantissa : Nat
  exponent : Int
deriving DecidableEq, Repr

namespace Binary

/-- The exponent of the smallest positive `Float`. -/
def minExponent : Int := -1074

/-- The least mantissa of a `Float` that is not subnormal. -/
def leadingBit : Nat := twoTo 52

/-- The exact value of a finite `Float`. -/
def ofFloat? (x : Float) : Option Binary :=
  let bits : Nat := x.toBits.toNat
  let negative := bits / twoTo 63 == 1
  let biased : Nat := bits / twoTo 52 % twoTo 11
  let fraction : Nat := bits % twoTo 52
  if biased = twoTo 11 - 1 then none
  else if biased = 0 then some ⟨negative, fraction, minExponent⟩
  else some ⟨negative, leadingBit + fraction, (biased : Int) + minExponent - 1⟩

/-- `num / den` rounded to the nearest natural number, a tie to the even one. -/
def roundEven (num den : Nat) : Nat :=
  let q := num / den
  let r := num % den
  if 2 * r < den then q
  else if den < 2 * r then q + 1
  else if q % 2 = 0 then q else q + 1

/-- `num / (den · 2 ^ e)` as a ratio of natural numbers. -/
def scaled (num den : Nat) (e : Int) : Nat × Nat :=
  (num * twoTo (-e).toNat, den * twoTo e.toNat)

/-- The largest `e` with `2 ^ e ≤ num / den`, for positive `num` and `den`. -/
def floorLog (num den : Nat) : Int :=
  let e := (num.log2 : Int) - den.log2
  let r := scaled num den e
  if r.2 ≤ r.1 then e else e - 1

/-- The bit pattern of the `Float` nearest to `num / den`; that of infinity beyond the range. -/
def nearestBits (num den : Nat) : Nat :=
  if num = 0 then 0
  else
    let e := max (floorLog num den - 52) minExponent
    let r := scaled num den e
    let m := roundEven r.1 r.2
    if m < leadingBit then m
    else min ((e - minExponent + 1).toNat * leadingBit + (m - leadingBit)) (2047 * leadingBit)

/-- The `Float` nearest to `± num / den`. -/
def nearest (negative : Bool) (num den : Nat) : Float :=
  Float.ofBits (UInt64.ofNat (nearestBits num den + if negative then twoTo 63 else 0))

/-- The `Float` nearest to an integer; `none` if it is beyond the range. -/
def ofInt? (i : Int) : Option Float :=
  let x := nearest (i < 0) i.natAbs 1
  if x.isInf then none else some x

/-- The `Float` nearest to a quotient of integers with a positive divisor; `none` if it is
beyond the range. -/
def ofQuotient? (num : Int) (den : Nat) : Option Float :=
  let x := nearest (num < 0) num.natAbs den
  if x.isInf then none else some x

/-- The whole part of a binary number, toward zero. -/
def truncate (b : Binary) : Int :=
  let n := b.mantissa * twoTo b.exponent.toNat / twoTo (-b.exponent).toNat
  if b.negative then -(n : Int) else n

end Binary

end Bookfinder
