import Bookfinder.Number.Writing
import Bookfinder.Outcome

/-!
# Writing queries

`Query.written` is the text that reads back as a query, and `Query.described` the heading over
its results. To write one of them is a fault if an end of the years is too long
(`YearRange.write`). A `Request` is what a caller hands in as a query, which may be something else:
such a request has no written form (`Fault.unknownQuery`).
-/

namespace Bookfinder

namespace YearRange

/-- Writes an end of a range; nothing if it is open. -/
def writeEnd : Option Int → Except Fault String
  | some year => Number.write year
  | none => .ok ""

/-- Writes a range, one end after the other. -/
def write (r : YearRange) : Except Fault String := do
  let first ← writeEnd r.first
  let last ← writeEnd r.last
  return if r.isBounded then first ++ "-" ++ last else ""

theorem writeEnd_of_isShort {year : Option Int} (h : ∀ y ∈ year, Number.IsShort y) :
    writeEnd year = .ok ((year.map Number.writtenInt).getD "") := by
  cases year with
  | none => rfl
  | some y => exact Number.write_of_isShort (h y rfl)

theorem writeEnd_of_not_isShort {year : Option Int} (h : ¬∀ y ∈ year, Number.IsShort y) :
    writeEnd year = .error .malformed := by
  cases year with
  | none => exact absurd (fun _ => nofun) h
  | some y => exact Number.write_of_not_isShort fun hy => h fun _ hm => Option.some.inj hm ▸ hy

theorem isShort_iff {r : YearRange} :
    r.IsShort ↔ (∀ y ∈ r.first, Number.IsShort y) ∧ ∀ y ∈ r.last, Number.IsShort y := by
  simp only [IsShort, bounds, List.mem_append, Option.mem_toList, Option.mem_def, or_imp,
    forall_and]

/-- A range with short ends is written. -/
theorem write_of_isShort {r : YearRange} (h : r.IsShort) : r.write = .ok r.written := by
  rw [write, writeEnd_of_isShort (isShort_iff.1 h).1, writeEnd_of_isShort (isShort_iff.1 h).2]
  rfl

/-- A range with an end that is too long is not. -/
theorem write_of_not_isShort {r : YearRange} (h : ¬r.IsShort) : r.write = .error .malformed := by
  rw [write]
  by_cases hfirst : ∀ y ∈ r.first, Number.IsShort y
  · rw [writeEnd_of_isShort hfirst,
      writeEnd_of_not_isShort fun hlast => h (isShort_iff.2 ⟨hfirst, hlast⟩)]
    rfl
  · rw [writeEnd_of_not_isShort hfirst]
    rfl

theorem write_eq_error_iff {r : YearRange} {e : Fault} :
    r.write = .error e ↔ e = .malformed ∧ ¬r.IsShort := by
  by_cases h : r.IsShort
  · rw [write_of_isShort h]
    exact iff_of_false nofun fun he => he.2 h
  · rw [write_of_not_isShort h, Except.error.injEq, eq_comm]
    exact (and_iff_left h).symm

theorem isShort_unbounded : unbounded.IsShort := by decide

/-- The years up to the first one that is too long to be written. -/
def overlong : YearRange := ⟨none, some (tenTo Number.maxIntegerDigits)⟩

theorem not_isShort_overlong : ¬overlong.IsShort := fun h =>
  Number.not_isShort_tenTo ((isShort_iff.1 h).2 _ rfl)

end YearRange

namespace Query

/-- The text that asks for a query. -/
def written : Query → String
  | .freeText t => t
  | .titleOnly t => "title-only:" ++ t
  | .authorOnly t => "author:" ++ t
  | .authorYears t r =>
    let years := "year:" ++ r.written
    if t.isEmpty then years else "author:" ++ t ++ " " ++ years

/-- Writes a query. -/
def write (q : Query) : Except Fault String := do
  let _ ← q.years.write
  return q.written

theorem write_of_isShort {q : Query} (h : q.years.IsShort) : q.write = .ok q.written := by
  rw [write, YearRange.write_of_isShort h]
  rfl

theorem write_of_not_isShort {q : Query} (h : ¬q.years.IsShort) :
    q.write = .error .malformed := by
  rw [write, YearRange.write_of_not_isShort h]
  rfl

/-- The heading over the results of a query. -/
def described : Query → String
  | .freeText t => "Results for \"" ++ t ++ "\""
  | .titleOnly t => "Title: " ++ t
  | .authorOnly t => "Author: " ++ t
  | .authorYears t r =>
    let years := if r.isBounded then r.written else "any year"
    if t.isEmpty then "Published: " ++ years else "Author: " ++ t ++ " (" ++ years ++ ")"

/-- Writes the heading over the results of a query. -/
def describe (q : Query) : Except Fault String := do
  let _ ← q.years.write
  return q.described

end Query

/-- What is handed in as a query. -/
inductive Request where
  | query (q : Query)
  /-- Something that is no query; `kind` names what it is. -/
  | other (kind : String)
deriving DecidableEq, Repr

namespace Request

/-- The query of a request. -/
def known : Request → Except Fault Query
  | .query q => .ok q
  | .other kind => .error (.unknownQuery kind)

/-- The text that asks for the same. -/
def written (r : Request) : Except Fault String := do (← r.known).write

/-- The heading over the results. Only a query has a term to show. -/
def described : Request → Except Fault String
  | .query q => q.describe
  | .other _ => .error .notRecord

end Request

end Bookfinder
