import Bookfinder.Number.Binary
import Bookfinder.Text.Digit

/-!
# Decimal numbers

A decimal is `± coefficient · 10 ^ exponent`. `Decimal.halfUp` moves it to a grid `10 ^ e`,
rounding a half away from zero, and fails when the result would need more than `precision`
digits. `Decimal.toFloat` is the nearest `Float`.
-/

namespace Bookfinder

/-- A finite decimal number `± coefficient · 10 ^ exponent`. -/
structure Decimal where
  negative : Bool
  coefficient : Nat
  exponent : Int
deriving DecidableEq, Repr

namespace Decimal

/-- The number of decimal digits of a natural number; zero has one. -/
def digitCount (n : Nat) : Nat := (Text.decimalDigits n).length

/-- The digits that a rounded result may have. -/
def precision : Nat := 28

/-- The largest magnitude of a grid exponent. -/
def maxGridExponent : Nat := 999999

/-- `num / den` rounded to the nearest natural number, a tie upwards. -/
def roundUp (num den : Nat) : Nat := (2 * num + den) / (2 * den)

/-- The decimal on the grid `10 ^ e` nearest to `d`, a tie away from zero; `none` if its
coefficient would have more than `precision` digits. -/
def halfUp (d : Decimal) (e : Int) : Option Decimal :=
  if maxGridExponent < e.natAbs then none
  else if d.coefficient = 0 then some { d with exponent := e }
  else
    let width := (digitCount d.coefficient : Int) + (d.exponent - e)
    if precision < width then none
    else
      let coefficient :=
        if width < 0 then 0
        else roundUp (d.coefficient * tenTo (d.exponent - e).toNat) (tenTo (e - d.exponent).toNat)
      if precision < digitCount coefficient then none
      else some { d with coefficient, exponent := e }

/-- The nearest `Float`: infinity beyond the range. The first two cases only keep the powers of
ten small: such a decimal is above the largest or below half the smallest `Float`. -/
def toFloat (d : Decimal) : Float :=
  let magnitude := (digitCount d.coefficient : Int) + d.exponent
  if d.coefficient ≠ 0 ∧ 400 < magnitude then Binary.nearest d.negative (twoTo 1024) 1
  else if magnitude < -400 then Binary.nearest d.negative 0 1
  else Binary.nearest d.negative (d.coefficient * tenTo d.exponent.toNat) (tenTo (-d.exponent).toNat)

end Decimal

end Bookfinder
