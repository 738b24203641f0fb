/-!
# Decimal digits of any script

A numeral may be written with the digits of any script that counts in base ten. Each such
script has its ten digits in a row, so `scriptZeros`, the list of the zeros of Unicode 14, is all
there is to know; `digitValue?` reads a digit and `digits` the longest run of them.
-/

namespace Bookfinder.Text

/-- The digit zero of each script that writes numbers in base ten. -/
def scriptZeros : List Nat :=
  [0x30, 0x660, 0x6F0, 0x7C0, 0x966, 0x9E6, 0xA66, 0xAE6, 0xB66, 0xBE6, 0xC66, 0xCE6, 0xD66,
   0xDE6, 0xE50, 0xED0, 0xF20, 0x1040, 0x1090, 0x17E0, 0x1810, 0x1946, 0x19D0, 0x1A80, 0x1A90,
   0x1B50, 0x1BB0, 0x1C40, 0x1C50, 0xA620, 0xA8D0, 0xA900, 0xA9D0, 0xA9F0, 0xAA50, 0xABF0,
   0xFF10, 0x104A0, 0x10D30, 0x11066, 0x110F0, 0x11136, 0x111D0, 0x112F0, 0x11450, 0x114D0,
   0x11650, 0x116C0, 0x11730, 0x118E0, 0x11950, 0x11C50, 0x11D50, 0x11DA0, 0x16A60, 0x16AC0,
   0x16B50, 0x1D7CE, 0x1D7D8, 0x1D7E2, 0x1D7EC, 0x1D7F6, 0x1E140, 0x1E2F0, 0x1E950, 0x1FBF0]

/-- The value of a decimal digit. -/
def digitValue? (c : Char) : Option Nat :=
  (scriptZeros.find? fun z => z ≤ c.toNat && c.toNat ≤ z + 9).map (c.toNat - ·)

/-- The ASCII digits, the only ones that fixed formats take. -/
def isAsciiDigit (c : Char) : Bool := '0' ≤ c && c ≤ '9'

/-- The value of an ASCII digit. -/
def asciiDigitValue (c : Char) : Nat := c.toNat - '0'.toNat

/-- The number that a list of digit values writes in base ten. -/
def ofDigitValues (ds : List Nat) : Nat := ds.foldl (fun n d => 10 * n + d) 0

/-- Reading one more digit multiplies by ten and adds it. -/
theorem ofDigitValues_concat (ds : List Nat) (d : Nat) :
    ofDigitValues (ds ++ [d]) = 10 * ofDigitValues ds + d := by
  simp [ofDigitValues]

/-- The number that a list of ASCII digits writes. -/
def natOfAsciiDigits (cs : List Char) : Nat := ofDigitValues (cs.map asciiDigitValue)

/-- The decimal digits of a number, the highest first. -/
def decimalDigits (n : Nat) : List Char := Nat.toDigits 10 n

end Bookfinder.Text
