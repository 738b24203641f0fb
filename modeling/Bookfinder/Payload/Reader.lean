import Bookfinder.Number.Numeral
import Bookfinder.Payload.Basic

/-!
# Reading JSON

`Payload.ofJson?` reads a JSON text. It takes the numerals `NaN`, `Infinity` and `-Infinity`
beside the standard ones; an integer has at most `Number.maxIntegerDigits` digits; in a record
that repeats a name the last value counts, at the place of the first.

A reader takes a list of characters and returns what it read with the characters after it. The
readers of values, lists and records call each other by fuel; every call that succeeds takes a
character, so twice the length of the text is enough.
-/

namespace Bookfinder.Payload

/-! ## White space and texts -/

/-- White space between JSON tokens. -/
def isJsonSpace (c : Char) : Bool := c = ' ' || c = '\t' || c = '\n' || c = '\r'

/-- The characters from the next token on. -/
def skipSpace (cs : List Char) : List Char := cs.dropWhile isJsonSpace

/-- The value of a hexadecimal digit. -/
def hexValue? (c : Char) : Option Nat :=
  if Text.isAsciiDigit c then some (Text.asciiDigitValue c)
  else if 'a' ≤ c && c ≤ 'f' then some (c.toNat - 'a'.toNat + 10)
  else if 'A' ≤ c && c ≤ 'F' then some (c.toNat - 'A'.toNat + 10)
  else none

/-- The number that four hexadecimal digits write. -/
def hexUnit? (a b c d : Char) : Option Nat := do
  let a ← hexValue? a
  let b ← hexValue? b
  let c ← hexValue? c
  let d ← hexValue? d
  return ((a * 16 + b) * 16 + c) * 16 + d

/-- The character that a backslash and a letter stand for. -/
def escaped? (c : Char) : Option Char :=
  if c = '"' || c = '\\' || c = '/' then some c
  else if c = 'b' then some '\x08'
  else if c = 'f' then some '\x0c'
  else if c = 'n' then some '\n'
  else if c = 'r' then some '\r'
  else if c = 't' then some '\t'
  else none

/-- The first half of a character beyond the sixteen-bit range. -/
def isLeadingUnit (n : Nat) : Bool := 0xD800 ≤ n && n < 0xDC00

/-- The second half of a character beyond the sixteen-bit range. -/
def isTrailingUnit (n : Nat) : Bool := 0xDC00 ≤ n && n < 0xE000

/-- The character with that number; the replacement character for half a character. -/
def charOfUnit (n : Nat) : Char :=
  if isLeadingUnit n || isTrailingUnit n then '\uFFFD' else Char.ofNat n

/-- The characters that a list of units stands for, after a leading unit `waiting`. -/
def charsOfUnits (waiting : Option Nat) : List Nat → List Char
  | [] => (waiting.map charOfUnit).toList
  | n :: ns =>
    match waiting with
    | some h =>
      if isTrailingUnit n then
        Char.ofNat (0x10000 + (h - 0xD800) * 0x400 + (n - 0xDC00)) :: charsOfUnits none ns
      else if isLeadingUnit n then charOfUnit h :: charsOfUnits (some n) ns
      else charOfUnit h :: charOfUnit n :: charsOfUnits none ns
    | none =>
      if isLeadingUnit n then charsOfUnits (some n) ns
      else charOfUnit n :: charsOfUnits none ns

/-- The units of a text up to its closing quotation mark; `seen` holds the units so far, the last
one first. Control characters must be escaped. -/
def readUnits (seen : List Nat) : List Char → Option (List Nat × List Char)
  | [] => none
  | '"' :: cs => some (seen.reverse, cs)
  | '\\' :: 'u' :: a :: b :: c :: d :: cs =>
    match hexUnit? a b c d with
    | some n => readUnits (n :: seen) cs
    | none => none
  | '\\' :: c :: cs =>
    match escaped? c with
    | some e => readUnits (e.toNat :: seen) cs
    | none => none
  | c :: cs => if c.toNat < 0x20 || c = '\\' then none else readUnits (c.toNat :: seen) cs

/-- A text after its opening quotation mark. -/
def readText (cs : List Char) : Option (String × List Char) :=
  (readUnits [] cs).map fun (units, rest) => (String.ofList (charsOfUnits none units), rest)

/-! ## Numerals and words -/

/-- The digits before the point: a single zero, or digits that do not start with zero. -/
def readWhole : List Char → Option (List Char × List Char)
  | '0' :: cs => some (['0'], cs)
  | cs =>
    let ds := cs.takeWhile Text.isAsciiDigit
    if ds.isEmpty then none else some (ds, cs.dropWhile Text.isAsciiDigit)

/-- A point and the digits after it, if there are any. -/
def readFraction : List Char → Option (List Char × List Char)
  | '.' :: cs =>
    let ds := cs.takeWhile Text.isAsciiDigit
    if ds.isEmpty then none else some (ds, cs.dropWhile Text.isAsciiDigit)
  | _ => none

/-- The mark of an exponent, its sign and its digits, if there are any. -/
def readExponent : List Char → Option (Int × List Char)
  | c :: cs =>
    if c = 'e' || c = 'E' then
      let (negative, body) := Number.splitSign cs
      let ds := body.takeWhile Text.isAsciiDigit
      let n : Int := Text.natOfAsciiDigits ds
      if ds.isEmpty then none
      else some (if negative then -n else n, body.dropWhile Text.isAsciiDigit)
    else none
  | [] => none

/-- An unsigned numeral: an integer, or a real number if it has a fraction or an exponent. -/
def readNumeral (negative : Bool) (cs : List Char) : Option (Payload × List Char) :=
  (readWhole cs).bind fun (whole, afterWhole) =>
    let (fraction, afterFraction) := (readFraction afterWhole).getD ([], afterWhole)
    let exponent := readExponent afterFraction
    if fraction.isEmpty && exponent.isNone then
      (Number.natOfDigits? whole).map fun n => (.int (if negative then -(n : Int) else n), afterWhole)
    else
      let (e, rest) := exponent.getD (0, afterFraction)
      let d : Decimal := ⟨negative, Text.natOfAsciiDigits (whole ++ fraction), e - fraction.length⟩
      some (.real d.toFloat, rest)

/-- The words that are values. -/
def words : List (List Char × Payload) :=
  [("null".toList, .null), ("true".toList, .bool true), ("false".toList, .bool false),
   ("NaN".toList, .real (0 / 0)), ("Infinity".toList, .real (1 / 0)),
   ("-Infinity".toList, .real (-(1 / 0)))]

/-- A value that is a word or a numeral. -/
def readAtom (cs : List Char) : Option (Payload × List Char) :=
  match words.find? fun w => w.1.isPrefixOf cs with
  | some (w, p) => some (p, cs.drop w.length)
  | none =>
    match cs with
    | '-' :: cs => readNumeral true cs
    | cs => readNumeral false cs

/-! ## Values -/

/-- The fields of a record in which each name stands once. -/
def ofFields (fields : List (String × Payload)) : Association Payload :=
  fields.foldl (fun fs f => Association.put fs f.1 f.2) []

mutual

/-- A value. -/
def readValue : Nat → List Char → Option (Payload × List Char)
  | 0, _ => none
  | fuel + 1, cs =>
    match cs with
    | '"' :: cs => (readText cs).map fun (s, rest) => (.text s, rest)
    | '[' :: cs =>
      match skipSpace cs with
      | ']' :: rest => some (.list [], rest)
      | cs => (readItems fuel cs).map fun (ps, rest) => (.list ps, rest)
    | '\x7b' :: cs =>
      match skipSpace cs with
      | '\x7d' :: rest => some (.record [], rest)
      | cs => (readFields fuel cs).map fun (fs, rest) => (.record (ofFields fs), rest)
    | cs => readAtom cs

/-- The members of a list up to its closing bracket. -/
def readItems : Nat → List Char → Option (List Payload × List Char)
  | 0, _ => none
  | fuel + 1, cs =>
    (readValue fuel cs).bind fun (p, rest) =>
      match skipSpace rest with
      | ']' :: rest => some ([p], rest)
      | ',' :: rest => (readItems fuel (skipSpace rest)).map fun (ps, rest) => (p :: ps, rest)
      | _ => none

/-- The fields of a record up to its closing brace. -/
def readFields : Nat → List Char → Option (List (String × Payload) × List Char)
  | 0, _ => none
  | fuel + 1, cs =>
    match cs with
    | '"' :: cs =>
      (readText cs).bind fun (name, rest) =>
        match skipSpace rest with
        | ':' :: rest =>
          (readValue fuel (skipSpace rest)).bind fun (p, rest) =>
            match skipSpace rest with
            | '\x7d' :: rest => some ([(name, p)], rest)
            | ',' :: rest =>
              (readFields fuel (skipSpace rest)).map fun (fs, rest) => ((name, p) :: fs, rest)
            | _ => none
        | _ => none
    | _ => none

end

/-- The value that a JSON text writes, with white space around it. -/
def ofJson? (s : String) : Option Payload :=
  let cs := s.toList
  (readValue (2 * cs.length + 2) (skipSpace cs)).bind fun (p, rest) =>
    if (skipSpace rest).isEmpty then some p else none

end Bookfinder.Payload
