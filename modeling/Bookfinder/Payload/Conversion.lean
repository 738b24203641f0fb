import Bookfinder.Number.Arithmetic
import Bookfinder.Number.Shortest
import Bookfinder.Number.Writing
import Bookfinder.Outcome

/-!
# Converting payloads

How a payload is read as an integer, a real number or a text, and how numbers among payloads are
added and rounded. Each conversion says by its `Fault` why there is no result. `halfUp` rounds
as a person would: it takes the number as it is written in decimals, a half going away from zero.
-/

namespace Bookfinder.Payload

/-! ## Single values -/

/-- The text of a payload that is one. -/
def asText : Payload → Except Fault String
  | .text s => .ok s
  | _ => .error .notText

/-- The fields of a payload that is a record. -/
def asRecord : Payload → Except Fault (Association Payload)
  | .record fields => .ok fields
  | _ => .error .notRecord

/-- The value of a field; null if it is missing. -/
def get (fields : Association Payload) (name : String) : Payload :=
  (fields.find? name).getD .null

/-- The members of a payload that can be gone through: those of a list, the characters of a text
and the names of a record. -/
def elements : Payload → Except Fault (List Payload)
  | .list items => .ok items
  | .text s => .ok (s.toList.map fun c => .text c.toString)
  | .record fields => .ok (fields.map fun f => .text f.1)
  | _ => .error .wrongKind

/-- The whole part of a real number. -/
def wholePart (x : Float) : Except Fault Int :=
  match Binary.ofFloat? x with
  | some b => .ok b.truncate
  | none => .error (if x.isNaN then .malformed else .overflow)

/-- A payload as an integer. -/
def toInt : Payload → Except Fault Int
  | .bool b => .ok (if b then 1 else 0)
  | .int i => .ok i
  | .real x => wholePart x
  | .text s => (Number.readInteger? s).elim (.error .malformed) .ok
  | _ => .error .wrongKind

/-- A payload as a number to compute with. -/
def toNumber : Payload → Except Fault Number
  | .bool b => .ok (.int (if b then 1 else 0))
  | .int i => .ok (.int i)
  | .real x => .ok (.real x)
  | _ => .error .wrongKind

/-- A payload as a real number. -/
def toReal : Payload → Except Fault Float
  | .text s => (Number.readReal? s).elim (.error .malformed) .ok
  | p => do (← p.toNumber).toReal?.elim (.error .overflow) .ok

/-- Whether a payload stands for a missing number. -/
def isMissing (p : Payload) : Bool := p = .null || p = .text ""

/-- An integer that may be missing. -/
def toInt? (p : Payload) : Except Fault (Option Int) :=
  if p.isMissing then .ok none else p.toInt.map some

/-- A real number that may be missing. -/
def toReal? (p : Payload) : Except Fault (Option Float) :=
  if p.isMissing then .ok none else p.toReal.map some

/-! ## Rounding -/

/-- The decimal that a payload is written as. -/
def toDecimal : Payload → Except Fault Number.Reading
  | .text s => (Number.readDecimal? s).elim (.error .inexact) .ok
  | .int i => do
    let _ ← Number.write i
    return .finite ⟨i < 0, i.natAbs, 0⟩
  | .real x =>
    match Binary.ofFloat? x with
    | some b => .ok (.finite b.toDecimal)
    | none => .ok (if x.isNaN then .notANumber else .infinite (x < 0))
  | _ => .error .inexact

/-- A payload rounded to a number of decimal places, a half away from zero. -/
def halfUp (places : Int) (p : Payload) : Except Fault Float := do
  match ← p.toDecimal with
  | .finite d => ((d.halfUp (-places)).map Decimal.toFloat).elim (.error .inexact) .ok
  | .notANumber => .ok (0 / 0)
  | .infinite _ | .signalling => .error .inexact

/-- The places that figures are shown with. -/
def shownPlaces : Int := 2

/-! ## Means -/

/-- The sum of a list of numbers, added from the first to the last. -/
def sum (ps : List Payload) : Except Fault Number :=
  ps.foldlM (fun total p => do (total.add (← p.toNumber)).elim (.error .overflow) .ok) (.int 0)

/-- The mean of a list of numbers that is not empty. -/
def mean (ps : List Payload) : Except Fault Float := do
  ((← sum ps).divCount ps.length).elim (.error .overflow) .ok

/-- The mean of a list of numbers as it is shown; none of no numbers. -/
def shownMean? (ps : List Payload) : Except Fault (Option Float) :=
  if ps.isEmpty then .ok none
  else do return some (← (Payload.real (← mean ps)).halfUp shownPlaces)

end Bookfinder.Payload
