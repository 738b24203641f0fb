import Bookfinder.Number.Shortest

/-!
# How numbers are written

`Float.written` is the general form of a real number: the digits of the shortest decimal that
reads back, positionally if the point falls within sixteen places to the right of the first
digit or three zeros to the left of it, else with an exponent of at least two digits. A whole
number keeps one zero after the point, so that a real number never looks like an integer.
`fixedPlaces` writes a real number with a given number of places, a tie going to the even
digit.
-/

namespace Bookfinder

namespace Number

/-- A number as a text of digits with leading zeros up to `width`. -/
def padded (width n : Nat) : String :=
  let ds := Text.decimalDigits n
  String.ofList (List.replicate (width - ds.length) '0' ++ ds)

/-- An integer in base ten. -/
def writtenInt (i : Int) : String :=
  if i < 0 then "-" ++ padded 0 i.natAbs else padded 0 i.natAbs

/-- The texts of the numbers that are not finite. -/
structure SpecialTexts where
  infinity : String
  notANumber : String

/-- The spelling of everyday text. -/
def plainTexts : SpecialTexts := ⟨"inf", "nan"⟩

/-- A positive decimal `c · 10 ^ k`, where `c` does not end in zero. `point` counts the digits
before the point. -/
def writtenDecimal (c : Nat) (k : Int) : String :=
  let ds := Text.decimalDigits c
  let point := (ds.length : Int) + k
  if -4 < point ∧ point ≤ 16 then
    if point ≤ 0 then
      "0." ++ String.ofList (List.replicate (-point).toNat '0' ++ ds)
    else if (ds.length : Int) ≤ point then
      String.ofList (ds ++ List.replicate (point - ds.length).toNat '0') ++ ".0"
    else
      String.ofList (ds.take point.toNat) ++ "." ++ String.ofList (ds.drop point.toNat)
  else
    let fraction := if ds.length ≤ 1 then "" else "." ++ String.ofList (ds.drop 1)
    let sign := if point ≤ 0 then "-" else "+"
    String.ofList (ds.take 1) ++ fraction ++ "e" ++ sign ++ padded 2 (point - 1).natAbs

/-- A real number in the general form, with the given texts for what is not finite. -/
def writtenReal (texts : SpecialTexts) (x : Float) : String :=
  match Binary.ofFloat? x with
  | none =>
    if x.isNaN then texts.notANumber
    else if x < 0 then "-" ++ texts.infinity else texts.infinity
  | some b =>
    let d := b.toDecimal
    let sign := if d.negative then "-" else ""
    sign ++ if d.coefficient = 0 then "0.0" else writtenDecimal d.coefficient d.exponent

/-- A real number with `places` digits after the point. -/
def fixedPlaces (places : Nat) (x : Float) : String :=
  match Binary.ofFloat? x with
  | none => writtenReal plainTexts x
  | some b =>
    let n := Binary.roundEven (b.mantissa * twoTo b.exponent.toNat * tenTo places)
      (twoTo (-b.exponent).toNat)
    let sign := if b.negative then "-" else ""
    let fraction := if places = 0 then "" else "." ++ padded places (n % tenTo places)
    sign ++ padded 1 (n / tenTo places) ++ fraction

end Number

end Bookfinder
