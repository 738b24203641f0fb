import Bookfinder.Text.Lowercase
import Bookfinder.Text.UnprintableTable

/-!
# Quoted texts

`quote` writes a text between quotation marks so that a message shows exactly which characters
it holds: single marks, or double ones if the text has a single mark and no double one; a
backslash before the mark and before a backslash; `\t`, `\n` and `\r`; and a hexadecimal escape
of two, four or eight digits for every other character without a glyph.
-/

namespace Bookfinder.Text

/-- Characters that show as themselves between quotation marks. -/
def isPrintable (c : Char) : Bool := !within unprintableRanges c

/-- `n` in base sixteen with lower-case letters, at least `width` digits. -/
def hexDigits (width n : Nat) : List Char :=
  let ds := Nat.toDigits 16 n
  List.replicate (width - ds.length) '0' ++ ds

/-- The mark that a text is quoted with. -/
def quotationMark (cs : List Char) : Char :=
  if cs.contains '\'' && !cs.contains '"' then '"' else '\''

/-- One character between quotation marks `mark`. -/
def escapeChar (mark c : Char) : List Char :=
  if c = mark || c = '\\' then ['\\', c]
  else if c = '\t' then ['\\', 't']
  else if c = '\n' then ['\\', 'n']
  else if c = '\r' then ['\\', 'r']
  else if isPrintable c then [c]
  else if c.toNat < 0x100 then '\\' :: 'x' :: hexDigits 2 c.toNat
  else if c.toNat < 0x10000 then '\\' :: 'u' :: hexDigits 4 c.toNat
  else '\\' :: 'U' :: hexDigits 8 c.toNat

/-- A text between quotation marks. -/
def quote (s : String) : String :=
  let cs := s.toList
  let mark := quotationMark cs
  String.ofList (mark :: cs.flatMap (escapeChar mark) ++ [mark])

end Bookfinder.Text
