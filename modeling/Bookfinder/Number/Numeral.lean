import Bookfinder.Number.Decimal
import Bookfinder.Text.Blank

/-!
# Reading numerals

`readInteger?` and `readReal?` read the numerals that services and environment variables send:
blanks around them, a sign, digits of any script, and single underscores between digits.
`readDecimal?` reads a decimal for rounding; it takes underscores anywhere. A text that is no
such numeral is `none`, and so is an integer with more than `maxIntegerDigits` digits
(`IsShort` is said of the others).
-/

namespace Bookfinder.Number

/-! ## Preparation -/

/-- A digit of any script as the ASCII digit of its value; other characters stay. -/
def toAsciiDigit (c : Char) : Char :=
  match Text.digitValue? c with
  | some d => Char.ofNat ('0'.toNat + d)
  | none => c

/-- The blanks that may surround a numeral: all but the information separators. -/
def isNumeralBlank (c : Char) : Bool :=
  Text.isBlank c && !(0x1C ≤ c.toNat && c.toNat ≤ 0x1F)

/-- The characters of a numeral without the blanks around it, its digits in ASCII. -/
def numeralChars (s : String) : List Char :=
  let cs := (s.toList.map toAsciiDigit).dropWhile isNumeralBlank
  (cs.reverse.dropWhile isNumeralBlank).reverse

/-- Splits off a sign; `true` means minus. -/
def splitSign : List Char → Bool × List Char
  | '-' :: cs => (true, cs)
  | '+' :: cs => (false, cs)
  | cs => (false, cs)

/-- A list of characters without its underscores, if each of them stands between two digits;
`afterDigit` tells whether a digit was read last. -/
def ungroup? (afterDigit : Bool) : List Char → Option (List Char)
  | [] => some []
  | '_' :: cs =>
    match afterDigit, cs with
    | true, d :: _ => if Text.isAsciiDigit d then ungroup? false cs else none
    | _, _ => none
  | c :: cs => (ungroup? (Text.isAsciiDigit c) cs).map (c :: ·)

/-! ## Integers -/

/-- The digits that an integer numeral may have, leading zeros included. -/
def maxIntegerDigits : Nat := 4300

/-- An integer has no more digits than a numeral may have. -/
def IsShort (i : Int) : Prop := (Text.decimalDigits i.natAbs).length ≤ maxIntegerDigits

instance : DecidablePred IsShort := fun _ => Nat.decLe _ _

/-- The number that a list of ASCII digits writes; `none` if there are none or too many, or if
another character is among them. -/
def natOfDigits? (cs : List Char) : Option Nat :=
  if cs.isEmpty || !cs.all Text.isAsciiDigit || maxIntegerDigits < cs.length then none
  else some (Text.natOfAsciiDigits cs)

/-- The integer that a text writes. -/
def readInteger? (s : String) : Option Int :=
  let (negative, cs) := splitSign (numeralChars s)
  ((ungroup? false cs).bind natOfDigits?).map fun n => if negative then -(n : Int) else n

/-! ## Decimals -/

/-- The exponent after the digits of a decimal: nothing, or `e` with an integer. -/
def exponentOf? : List Char → Option Int
  | [] => some 0
  | c :: cs =>
    if c = 'e' || c = 'E' then
      let (negative, ds) := splitSign cs
      if ds.isEmpty || !ds.all Text.isAsciiDigit then none
      else
        let n : Int := Text.natOfAsciiDigits ds
        some (if negative then -n else n)
    else none

/-- The unsigned decimal that a list of ASCII characters writes: digits with or without a point
among them, at least one, and perhaps an exponent. -/
def unsignedDecimal? (negative : Bool) (cs : List Char) : Option Decimal :=
  let whole := cs.takeWhile Text.isAsciiDigit
  let (fraction, rest) :=
    match cs.dropWhile Text.isAsciiDigit with
    | '.' :: r => (r.takeWhile Text.isAsciiDigit, r.dropWhile Text.isAsciiDigit)
    | r => ([], r)
  if whole.isEmpty && fraction.isEmpty then none
  else
    (exponentOf? rest).map fun e =>
      ⟨negative, Text.natOfAsciiDigits (whole ++ fraction), e - fraction.length⟩

/-- What a decimal numeral stands for. -/
inductive Reading where
  | finite (d : Decimal)
  | infinite (negative : Bool)
  | notANumber
  /-- A value that is no number and may not be computed with. -/
  | signalling
deriving DecidableEq, Repr

/-- The spellings of infinity, in lower case. -/
def isInfinityWord (cs : List Char) : Bool :=
  cs = "inf".toList || cs = "infinity".toList

/-- The reading of a signed numeral whose characters are prepared; `payload` tells whether digits
may follow `nan`. -/
def reading? (payload : Bool) (cs : List Char) : Option Reading :=
  let (negative, body) := splitSign cs
  let word := body.map Char.toLower
  let isPayload (ds : List Char) : Bool := if payload then ds.all Text.isAsciiDigit else ds.isEmpty
  if isInfinityWord word then some (.infinite negative)
  else if "nan".toList.isPrefixOf word && isPayload (word.drop 3) then some .notANumber
  else if payload && "snan".toList.isPrefixOf word && isPayload (word.drop 4) then
    some .signalling
  else (unsignedDecimal? negative body).map .finite

/-- The real number that a text writes: infinity beyond the range. -/
def readReal? (s : String) : Option Float :=
  ((ungroup? false (numeralChars s)).bind (reading? false)).map fun
    | .finite d => d.toFloat
    | .infinite negative => if negative then -(1 / 0) else 1 / 0
    | .notANumber | .signalling => 0 / 0

/-- The decimal that a text writes. -/
def readDecimal? (s : String) : Option Reading :=
  reading? true (((Text.trimChars s.toList).filter (· != '_')).map toAsciiDigit)

end Bookfinder.Number
