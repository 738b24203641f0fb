import Bookfinder.Number.Notation
import Bookfinder.Number.Numeral
import Bookfinder.Text.Quoted

/-!
# Queries

A `Query` is what the search box asks for once it is read: a text to find anywhere, in titles or
in authors, or an author together with a range of years. `YearRange` is a range with inclusive
ends, either of which may be open.
-/

namespace Bookfinder

/-- Years from `first` to `last`, both included; an absent end is open. -/
structure YearRange where
  first : Option Int
  last : Option Int
deriving DecidableEq, Repr

namespace YearRange

/-- All years. -/
def unbounded : YearRange := ⟨none, none⟩

/-- The range of a single year. -/
def only (year : Int) : YearRange := ⟨some year, some year⟩

/-- Whether an end of the range is given. -/
def isBounded (r : YearRange) : Bool := r.first.isSome || r.last.isSome

theorem isBounded_eq_false_iff {r : YearRange} : r.isBounded = false ↔ r = .unbounded := by
  obtain ⟨first, last⟩ := r
  cases first <;> cases last <;> simp [isBounded, unbounded]

/-- Whether a year lies in the range. -/
def contains (r : YearRange) (year : Int) : Bool :=
  r.first.all (· ≤ year) && r.last.all (year ≤ ·)

/-- The year of a range that has just one. -/
def single? (r : YearRange) : Option Int :=
  r.first.bind fun year => if r.last = some year then some year else none

/-- The ends that are given. -/
def bounds (r : YearRange) : List Int := r.first.toList ++ r.last.toList

/-- The ends have no more digits than may be read and written. -/
def IsShort (r : YearRange) : Prop := ∀ y ∈ r.bounds, Number.IsShort y

instance : DecidablePred IsShort := fun r =>
  inferInstanceAs (Decidable (∀ y ∈ r.bounds, Number.IsShort y))

/-- A range as it is written in a query: its ends around a dash, nothing if both are open. -/
def written (r : YearRange) : String :=
  let side (year : Option Int) : String := (year.map Number.writtenInt).getD ""
  if r.isBounded then side r.first ++ "-" ++ side r.last else ""

end YearRange

/-- What a search asks for. -/
inductive Query where
  /-- A text in the title or the author. -/
  | freeText (term : String)
  | titleOnly (term : String)
  | authorOnly (term : String)
  /-- An author, possibly the empty text for any, and the years of publication. -/
  | authorYears (term : String) (years : YearRange)
deriving DecidableEq, Repr

namespace Query

/-- The text to look for. -/
def term : Query → String
  | .freeText t | .titleOnly t | .authorOnly t | .authorYears t _ => t

/-- The years that a query names; all of them if it names none. -/
def years : Query → YearRange
  | .authorYears _ r => r
  | _ => .unbounded

/-- An optional year in a message. -/
def inspectedYear (year : Option Int) : String := (year.map Number.writtenInt).getD "None"

/-- A query with all its parts, for messages. -/
def inspected : Query → String
  | .freeText t => "FreeText(term=" ++ Text.quote t ++ ")"
  | .titleOnly t => "TitleOnly(term=" ++ Text.quote t ++ ")"
  | .authorOnly t => "AuthorOnly(term=" ++ Text.quote t ++ ")"
  | .authorYears t r =>
    "AuthorWithYearRange(term=" ++ Text.quote t ++ ", year_from=" ++ inspectedYear r.first ++
      ", year_to=" ++ inspectedYear r.last ++ ")"

end Query

end Bookfinder
