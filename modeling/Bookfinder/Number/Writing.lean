import Bookfinder.Fault
import Bookfinder.Number.Numeral

/-!
# Writing integers

Only short integers are written, those with no more digits than a numeral may have
(`Number.IsShort`). To write another one is a fault, also if the text is but part of a message.
-/

namespace Bookfinder.Number

/-- Writes an integer. -/
def write (i : Int) : Except Fault String :=
  if IsShort i then .ok (writtenInt i) else .error .malformed

/-- The short integers are those below the power of ten with as many zeros. -/
theorem isShort_iff_lt {i : Int} : IsShort i ↔ i.natAbs < tenTo maxIntegerDigits := by
  have hpos : 0 < maxIntegerDigits := by decide
  unfold IsShort
  generalize maxIntegerDigits = n at hpos ⊢
  exact Nat.length_toDigits_le_iff (by decide) hpos

theorem lt_tenTo_of_isShort {i : Int} (h : IsShort i) : i < tenTo maxIntegerDigits :=
  Int.lt_of_le_of_lt Int.le_natAbs (Int.ofNat_lt.2 (isShort_iff_lt.1 h))

/-- A one followed by as many zeros as a numeral may have digits is the first number that is too
long. -/
theorem not_isShort_tenTo : ¬IsShort (tenTo maxIntegerDigits) := fun h =>
  Int.lt_irrefl _ (lt_tenTo_of_isShort h)

theorem write_of_isShort {i : Int} (h : IsShort i) : write i = .ok (writtenInt i) := if_pos h

theorem write_of_not_isShort {i : Int} (h : ¬IsShort i) : write i = .error .malformed := if_neg h

end Bookfinder.Number
