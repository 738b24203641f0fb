import Bookfinder.Number.Binary

/-!
# Integers and real numbers together

Scores and means come as integers or as real numbers and are added, compared and divided
together. Two integers combine exactly; as soon as one operand is real, the other is rounded to
a real, and an integer beyond the range of the reals makes the operation fail. Comparison is
always exact; with a value that is no number it has no answer.
-/

namespace Bookfinder

/-- An integer or a real number. -/
inductive Number where
  | int (i : Int)
  | real (x : Float)
deriving DecidableEq

namespace Number

/-- The nearest real number; `none` if the integer is beyond the range. -/
def toReal? : Number → Option Float
  | .int i => Binary.ofInt? i
  | .real x => some x

/-- An exact operation on integers, or one on the nearest reals. -/
def combine (onInts : Int → Int → Int) (onReals : Float → Float → Float) (a b : Number) :
    Option Number :=
  match a, b with
  | .int i, .int j => some (.int (onInts i j))
  | a, b =>
    match a.toReal?, b.toReal? with
    | some x, some y => some (.real (onReals x y))
    | _, _ => none

/-- The sum. -/
def add : Number → Number → Option Number := combine (· + ·) (· + ·)

/-- The product. -/
def mul : Number → Number → Option Number := combine (· * ·) (· * ·)

/-- The quotient by a positive count, a real number. -/
def divCount (a : Number) (count : Nat) : Option Float :=
  match a with
  | .int i => Binary.ofQuotient? i count
  | .real x => (Binary.ofInt? count).map (x / ·)

/-- An integer against a binary number, exactly. -/
def compareBinary (i : Int) (b : Binary) : Ordering :=
  let m : Int := if b.negative then -b.mantissa else b.mantissa
  compare (i * twoTo (-b.exponent).toNat) (m * twoTo b.exponent.toNat)

/-- An integer against a real number. -/
def compareReal? (i : Int) (x : Float) : Option Ordering :=
  match Binary.ofFloat? x with
  | some b => some (compareBinary i b)
  | none => if x.isNaN then none else if x < 0 then some .gt else some .lt

/-- Exact comparison; `none` if an operand is no number. -/
def compare? : Number → Number → Option Ordering
  | .int i, .int j => some (compare i j)
  | .int i, .real y => compareReal? i y
  | .real x, .int j => (compareReal? j x).map Ordering.swap
  | .real x, .real y =>
    if x < y then some .lt else if y < x then some .gt else if x == y then some .eq else none

/-- `a ≤ b`, false if an operand is no number. -/
def atMost (a b : Number) : Bool :=
  match a.compare? b with
  | some .lt | some .eq => true
  | _ => false

/-- `a ≥ b`, false if an operand is no number. -/
def atLeast (a b : Number) : Bool := b.atMost a

end Number

end Bookfinder
