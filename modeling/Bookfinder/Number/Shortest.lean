import Bookfinder.Number.Decimal

/-!
# The shortest decimal that reads back

Many decimals are nearest to the same `Float`: those between the midpoints to its two
neighbours. `Binary.shortest` finds the one with the fewest digits, and of several the one
closest to the exact value, a tie going to the even digit. It goes through ever finer grids
`10 ^ k` and takes the first that has a point between the midpoints; only the two points around
the value can be nearest to it.
-/

namespace Bookfinder

namespace Binary

/-- The value of a positive `Float` with the midpoints to its neighbours, as numerators over one
denominator; `closed` tells whether the midpoints themselves round to it. -/
structure Interval where
  low : Nat
  value : Nat
  high : Nat
  den : Nat
  closed : Bool

/-- The numbers that round to `mantissa · 2 ^ exponent`. The neighbour below a power of two is
nearer than the one above, except at the least exponent. -/
def interval (mantissa : Nat) (exponent : Int) : Interval :=
  let step := if mantissa = leadingBit ∧ minExponent < exponent then 1 else 2
  let scale := twoTo (exponent - 2).toNat
  { low := (4 * mantissa - step) * scale
    value := 4 * mantissa * scale
    high := (4 * mantissa + 2) * scale
    den := twoTo (2 - exponent).toNat
    closed := mantissa % 2 = 0 }

/-- The point of the grid `10 ^ k` inside the interval that is nearest to the value. -/
def Interval.gridPoint? (i : Interval) (k : Int) : Option Nat :=
  let up := tenTo (-k).toNat
  let den := i.den * tenTo k.toNat
  let below := i.value * up / den
  let rest := i.value * up % den
  let within (d : Nat) : Bool :=
    if i.closed then i.low * up ≤ d * den && d * den ≤ i.high * up
    else i.low * up < d * den && d * den < i.high * up
  match within below, within (below + 1) with
  | true, false => some below
  | false, true => some (below + 1)
  | true, true =>
    if 2 * rest < den then some below
    else if den < 2 * rest then some (below + 1)
    else if below % 2 = 0 then some below else some (below + 1)
  | false, false => none

/-- The first grid from `10 ^ k` on, in `fuel` steps of ten, with a point in the interval. -/
def Interval.search (i : Interval) : Nat → Int → Nat × Int
  | 0, k => (i.value * tenTo (-k).toNat / (i.den * tenTo k.toNat), k)
  | fuel + 1, k =>
    match i.gridPoint? k with
    | some d => (d, k)
    | none => i.search fuel (k - 1)

/-- A grid that is too coarse to have a point in the interval. -/
def coarseGrid (mantissa : Nat) (exponent : Int) : Int :=
  ((mantissa.log2 : Int) + 1 + exponent) * 30103 / 100000 + 2

/-- The shortest decimal that reads back as a positive `mantissa · 2 ^ exponent`. Twenty-two
grids always suffice, since seventeen digits tell any two `Float`s apart. -/
def shortest (mantissa : Nat) (exponent : Int) : Nat × Int :=
  (interval mantissa exponent).search 22 (coarseGrid mantissa exponent)

/-- A pair `(c, k)` for `c · 10 ^ k` without zeros at the end of `c`. -/
def dropZeros : Nat → Nat → Int → Nat × Int
  | 0, c, k => (c, k)
  | fuel + 1, c, k => if c ≠ 0 ∧ c % 10 = 0 then dropZeros fuel (c / 10) (k + 1) else (c, k)

/-- The shortest decimal that reads back as a binary number. -/
def toDecimal (b : Binary) : Decimal :=
  if b.mantissa = 0 then ⟨b.negative, 0, 0⟩
  else
    let (c, k) := shortest b.mantissa b.exponent
    let (c, k) := dropZeros (c.log2 + 1) c k
    ⟨b.negative, c, k⟩

end Binary

end Bookfinder
