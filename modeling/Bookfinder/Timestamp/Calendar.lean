/-!
# The calendar

Days are counted from the first of January of the year 1, which is day 0 and a Monday, in the
calendar with a leap day every fourth year but three times in four hundred. `dayNumber` counts
the days up to a date and `dateOfDay` finds the date of a day; `dayOfWeek?` finds the day that a
year, a week and a weekday name.
-/

namespace Bookfinder

/-- A day of the calendar. -/
structure Date where
  year : Nat
  month : Nat
  day : Nat
deriving DecidableEq, Repr

namespace Date

/-- Whether a year has a leap day. -/
def isLeap (year : Nat) : Bool := year % 4 == 0 && (year % 100 != 0 || year % 400 == 0)

/-- The lengths of the months of a year. -/
def monthLengths (year : Nat) : List Nat :=
  [31, if isLeap year then 29 else 28, 31, 30, 31, 30, 31, 31, 30, 31, 30, 31]

/-- The last year that has dates. -/
def maxYear : Nat := 9999

/-- Whether a date is in the calendar. -/
def isValid (d : Date) : Bool :=
  1 ≤ d.year && d.year ≤ maxYear && 1 ≤ d.month &&
    match (monthLengths d.year)[d.month - 1]? with
    | some length => 1 ≤ d.day && d.day ≤ length
    | none => false

/-- The number of days before the first of January of a year. -/
def daysBefore (year : Nat) : Nat :=
  let y := year - 1
  365 * y + y / 4 - y / 100 + y / 400

/-- The number of a day. -/
def dayNumber (d : Date) : Nat :=
  daysBefore d.year + ((monthLengths d.year).take (d.month - 1)).foldl Nat.add 0 + (d.day - 1)

/-- The month and the day of the month that lie `n` days after the first day of `month`, whose
length comes first in the list. -/
def monthAndDay (month n : Nat) : List Nat → Nat × Nat
  | [] => (month, n + 1)
  | length :: rest => if n < length then (month, n + 1) else monthAndDay (month + 1) (n - length) rest

/-- The date with a number. The year is guessed by the mean length of a year, which is late by
one at most. -/
def ofDayNumber (n : Nat) : Date :=
  let guess := n * 400 / 146097 + 1
  let year := if n < daysBefore guess then guess - 1
    else if daysBefore (guess + 1) ≤ n then guess + 1 else guess
  let (month, day) := monthAndDay 1 (n - daysBefore year) (monthLengths year)
  ⟨year, month, day⟩

/-- The weekday of the day with a number, Monday being 0. -/
def weekday (n : Nat) : Nat := n % 7

/-- The number of weeks of a year: 53 if it starts on a Thursday, or on a Wednesday with a leap
day, else 52. -/
def weekCount (year : Nat) : Nat :=
  let start := weekday (daysBefore year)
  if start = 3 || (start = 2 && isLeap year) then 53 else 52

/-- The number of the Monday of the first week of a year, the week that holds its first
Thursday. It may lie in the year before. -/
def firstMonday (year : Nat) : Int :=
  let start := daysBefore year
  let monday : Int := start - weekday start
  if 3 < weekday start then monday + 7 else monday

/-- The date of a weekday, Monday being 1, of a week of a year. -/
def ofWeek? (year week day : Nat) : Option Date :=
  if 1 ≤ year && 1 ≤ week && week ≤ weekCount year && 1 ≤ day && day ≤ 7 then
    let n := firstMonday year + ((week - 1) * 7 + (day - 1) : Nat)
    if n < 0 then none else some (ofDayNumber n.toNat)
  else none

end Date

end Bookfinder
