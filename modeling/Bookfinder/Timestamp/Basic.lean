import Bookfinder.Fault
import Bookfinder.Timestamp.Calendar

/-!
# Timestamps

A `Timestamp` is a time of day on a date, to the microsecond, as a clock on the wall shows it,
perhaps with the offset of that clock. Two timestamps compare if both have an offset, by the
instants they name, or if neither has one; else their order is a fault. `written` is the
international form.
-/

namespace Bookfinder

/-- A time that a clock shows. -/
structure Timestamp where
  /-- Microseconds since the start of the year 1, by the clock. -/
  wall : Nat
  /-- How far the clock is ahead of universal time, in microseconds. -/
  offset : Option Int
deriving DecidableEq, Repr

namespace Timestamp

/-- Microseconds in a second. -/
def second : Nat := 1000000

/-- Microseconds in a minute. -/
def minute : Nat := 60 * second

/-- Microseconds in an hour. -/
def hour : Nat := 60 * minute

/-- Microseconds in a day. -/
def day : Nat := 24 * hour

/-- The start of the year 1. -/
def earliest : Timestamp := ⟨0, none⟩

/-- The time of day on a date. -/
def ofParts (d : Date) (timeOfDay : Nat) (offset : Option Int) : Timestamp :=
  ⟨d.dayNumber * day + timeOfDay, offset⟩

/-- A later time by the same clock. -/
def later (t : Timestamp) (micros : Nat) : Timestamp := { t with wall := t.wall + micros }

/-- The place of a timestamp among those of its kind. -/
def instant (t : Timestamp) : Int := t.wall - t.offset.getD 0

/-- Whether two timestamps can be compared. -/
def comparable (a b : Timestamp) : Bool := a.offset.isSome == b.offset.isSome

/-! ## Written form -/

/-- Hours and minutes, and the seconds and microseconds that are needed; `seconds` asks for the
seconds in any case. -/
def writtenClock (seconds : Bool) (micros : Nat) : String :=
  let fraction := micros % second
  let s := micros / second
  let clock := Number.padded 2 (s / 3600) ++ ":" ++ Number.padded 2 (s / 60 % 60)
  let clock := if seconds || s % 60 ≠ 0 || fraction ≠ 0 then
      clock ++ ":" ++ Number.padded 2 (s % 60) else clock
  if fraction = 0 then clock else clock ++ "." ++ Number.padded 6 fraction

/-- An offset with its sign. -/
def writtenOffset (offset : Int) : String :=
  (if offset < 0 then "-" else "+") ++ writtenClock false offset.natAbs

/-- A date with dashes. -/
def writtenDate (d : Date) : String :=
  Number.padded 4 d.year ++ "-" ++ Number.padded 2 d.month ++ "-" ++ Number.padded 2 d.day

/-- The international form of a timestamp. -/
def written (t : Timestamp) : String :=
  writtenDate (Date.ofDayNumber (t.wall / day)) ++ "T" ++ writtenClock true (t.wall % day) ++
    (t.offset.map writtenOffset).getD ""

end Timestamp

end Bookfinder
