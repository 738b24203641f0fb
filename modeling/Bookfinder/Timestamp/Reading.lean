import Bookfinder.Number.Power
import Bookfinder.Text.Digit
import Bookfinder.Timestamp.Basic

/-!
# Reading timestamps

`Timestamp.parse?` reads the international forms of a date, with or without dashes, by month and
day or by week and weekday, then one character of any kind, a time and an offset. The time has
two digits each for hours, minutes and seconds, with or without colons, as far as they are given,
and perhaps a fraction of which six digits count; an offset has the same form after its sign, or
is the letter `Z`.

The reader works on the bytes of the text, here as the characters with those numbers: a
separator beyond ASCII counts as one, whatever its width.
-/

namespace Bookfinder.Timestamp

/-! ## Dates -/

/-- The number that the first `n` characters write, all of them ASCII digits, and what follows. -/
def digits? (n : Nat) (cs : List Char) : Option (Nat × List Char) :=
  let ds := cs.take n
  if ds.length = n && ds.all Text.isAsciiDigit then some (Text.natOfAsciiDigits ds, cs.drop n)
  else none

/-- The number of characters that the date at the start of a text takes. A week date with
dashes may be followed by a weekday or, after a dash as the separator, by a time; two digits
after the dash are read as a time. A week date without dashes has a weekday if the digits after
it are odd in number, since a separator follows them in pairs. -/
def dateLength (cs : List Char) : Option Nat :=
  if cs.length = 7 then some 7
  else
    match cs[4]? with
    | some '-' =>
      if cs[5]? = some 'W' then
        if cs.length < 8 then none
        else if cs[8]? = some '-' then
          if cs.length = 9 then none
          else if (cs[10]?.map Text.isAsciiDigit).getD false then some 8 else some 10
        else some 8
      else some 10
    | some 'W' =>
      let run := 7 + ((cs.drop 7).takeWhile Text.isAsciiDigit).length
      if run < 9 then some run else if run % 2 = 0 then some 7 else some 8
    | _ => some 8

/-- The date that the rest of a text names after the year; `dashed` tells whether a dash followed
the year. -/
def parseDay? (year : Nat) (dashed : Bool) (cs : List Char) : Option Date :=
  let undash? (cs : List Char) : Option (List Char) :=
    match dashed, cs with
    | true, '-' :: rest => some rest
    | true, _ => none
    | false, rest => some rest
  match cs with
  | 'W' :: cs =>
    (digits? 2 cs).bind fun (week, rest) =>
      if rest.isEmpty then Date.ofWeek? year week 1
      else (undash? rest).bind fun rest =>
        (digits? 1 rest).bind fun (day, _) => Date.ofWeek? year week day
  | cs =>
    (digits? 2 cs).bind fun (month, rest) =>
      (undash? rest).bind fun rest =>
        (digits? 2 rest).map fun (day, _) => ⟨year, month, day⟩

/-- The date that a text names. -/
def parseDate? (cs : List Char) : Option Date :=
  (digits? 4 cs).bind fun (year, rest) =>
    match rest with
    | '-' :: rest => parseDay? year true rest
    | rest => parseDay? year false rest

/-! ## Times -/

/-- A time of day as far as it is given; `complete` tells whether nothing was left over. -/
structure Clock where
  fields : List Nat
  micros : Nat
  complete : Bool
deriving DecidableEq, Repr

/-- A fraction of a second, of which six digits count. -/
def fraction? (cs : List Char) : Option Clock :=
  let counted := min 6 cs.length
  (digits? counted cs).map fun (n, rest) =>
    ⟨[], n * tenTo (6 - counted), (rest.dropWhile Text.isAsciiDigit).isEmpty⟩

/-- The fields of a time, `left` of them at most. `colons` tells whether colons stand between
them, once this is known. A single character after a field is left over. -/
def clock? (colons : Option Bool) : Nat → List Char → Option Clock
  | 0, cs => fraction? cs
  | left + 1, cs =>
    (digits? 2 cs).bind fun (n, rest) =>
      let add (c : Clock) : Clock := { c with fields := n :: c.fields }
      match rest with
      | [] => some ⟨[n], 0, true⟩
      | [_] => some ⟨[n], 0, false⟩
      | c :: more =>
        let separated := colons.getD (c == ':')
        if separated && c == ':' then (clock? (some true) left more).map add
        else if c == '.' || c == ',' then (fraction? more).map add
        else if separated then none
        else (clock? (some false) left rest).map add

namespace Clock

/-- The number of a field; zero if it is not given. -/
def field (c : Clock) (i : Nat) : Nat := (c.fields[i]?).getD 0

/-- The whole seconds. -/
def seconds (c : Clock) : Nat := c.field 0 * 3600 + c.field 1 * 60 + c.field 2

/-- All of it in microseconds. -/
def total (c : Clock) : Nat := c.seconds * second + c.micros

/-- Whether each field is in the range of a clock. -/
def isValid (c : Clock) : Bool := c.field 0 < 24 && c.field 1 < 60 && c.field 2 < 60

end Clock

/-- The signs that start an offset. -/
def startsOffset (c : Char) : Bool := c = '+' || c = '-' || c = 'Z'

/-- The offset that a text names, below a day. Whole seconds of zero stand for universal time. -/
def parseOffset? : List Char → Option Int
  | ['Z'] => some 0
  | sign :: cs =>
    if sign = 'Z' then none
    else
      (clock? none 3 cs).bind fun c =>
        if !c.complete then none
        else if c.seconds = 0 then some 0
        else if c.total < day then some (if sign = '-' then -(c.total : Int) else c.total)
        else none
  | [] => none

/-- The time of day and the offset that a text names. What is left over of a time may stand only
before an offset. -/
def parseTime? (cs : List Char) : Option (Nat × Option Int) :=
  let tail := cs.dropWhile fun c => !startsOffset c
  (clock? none 3 (cs.takeWhile fun c => !startsOffset c)).bind fun c =>
    if !c.isValid then none
    else if tail.isEmpty then if c.complete then some (c.total, none) else none
    else (parseOffset? tail).map fun offset => (c.total, some offset)

/-! ## Timestamps -/

/-- The width of a character by its first byte. -/
def charWidth (first : Char) : Nat :=
  let n := first.toNat
  if n < 0x80 then 1 else if n / 16 = 0xE then 3 else if n / 16 = 0xF then 4 else 2

/-- The timestamp that a list of bytes names. -/
def parseBytes? (cs : List Char) : Option Timestamp :=
  (dateLength cs).bind fun length =>
    (parseDate? (cs.take length)).bind fun d =>
      if !d.isValid then none
      else
        match cs.drop length with
        | [] => some (Timestamp.ofParts d 0 none)
        | c :: rest =>
          (parseTime? ((c :: rest).drop (charWidth c))).map fun (time, offset) =>
            Timestamp.ofParts d time offset

/-- The timestamp that a text names. -/
def parse? (s : String) : Option Timestamp :=
  parseBytes? (s.toUTF8.toList.map fun b => Char.ofNat b.toNat)

end Bookfinder.Timestamp
