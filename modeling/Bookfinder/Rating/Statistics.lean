import Bookfinder.Rating.Basic

/-!
# Statistics

`Statistics` are the figures of one book: the mean of its ratings, how many there are, how many
have so many stars, and the mean of each criterion. `Statistics.ofRatings` works them out from
the ratings that carry an average. `Summary` has the same figures for the whole store.
-/

namespace Bookfinder

/-! ## Stars -/

/-- A whole number of stars. -/
inductive Star where
  | one
  | two
  | three
  | four
  | five
deriving DecidableEq, Repr

namespace Star

/-- All numbers of stars, from the lowest. -/
def all : List Star := [.one, .two, .three, .four, .five]

/-- The number of stars. -/
def count : Star → Nat
  | .one => 1
  | .two => 2
  | .three => 3
  | .four => 4
  | .five => 5

/-- The stars of that number. -/
def ofNat? (n : Nat) : Option Star := all.find? (·.count == n)

end Star

/-- How many ratings have each number of stars. -/
structure StarCounts where
  one : Int
  two : Int
  three : Int
  four : Int
  five : Int
deriving DecidableEq, Repr

namespace StarCounts

/-- No ratings at all. -/
def zero : StarCounts := ⟨0, 0, 0, 0, 0⟩

/-- The number of ratings with so many stars. -/
def get (h : StarCounts) : Star → Int
  | .one => h.one
  | .two => h.two
  | .three => h.three
  | .four => h.four
  | .five => h.five

/-- The counts given by a computation for each number of stars, run from five stars down. -/
def ofFnDownM {m : Type → Type} [Monad m] (f : Star → m Int) : m StarCounts := do
  let five ← f .five
  let four ← f .four
  let three ← f .three
  let two ← f .two
  let one ← f .one
  return { one, two, three, four, five }

/-- One more rating with so many stars. -/
def add (h : StarCounts) : Star → StarCounts
  | .one => { h with one := h.one + 1 }
  | .two => { h with two := h.two + 1 }
  | .three => { h with three := h.three + 1 }
  | .four => { h with four := h.four + 1 }
  | .five => { h with five := h.five + 1 }

/-- Counting a rating raises its own count by one and no other. -/
theorem get_add (h : StarCounts) (s t : Star) :
    (h.add s).get t = h.get t + if s = t then 1 else 0 := by
  cases s <;> cases t <;> simp [add, get]

/-- The counts of a list of ratings; those without stars are left out. -/
def ofRatings (ratings : List Rating) : Except Fault StarCounts :=
  ratings.foldlM (fun h r => do return ((Star.ofNat? (← r.stars)).map h.add).getD h) zero

end StarCounts

/-! ## One book -/

/-- The figures of one book. -/
structure Statistics where
  isbn : String
  average : Option Float
  total : Int
  stars : StarCounts
  means : Scores (Option Float)
deriving DecidableEq

namespace Statistics

/-- The figures of a book without ratings. -/
def unrated (isbn : String) : Statistics :=
  { isbn, average := none, total := 0, stars := .zero, means := Scores.ofFn fun _ => none }

/-- Whether there is a rating. -/
def hasRatings (s : Statistics) : Bool := 0 < s.total

/-- The scores of a criterion that are given. -/
def scoresOf (c : Criterion) (ratings : List Rating) : List Payload :=
  (ratings.map (·.scores.get c)).filter (· != .null)

/-- The figures of a book with these ratings. Only those with an average count. -/
def ofRatings (isbn : String) (ratings : List Rating) : Except Fault Statistics :=
  let rated := ratings.filter Rating.isRated
  if rated.isEmpty then .ok (unrated isbn)
  else do
    let stars ← StarCounts.ofRatings rated
    let average ← Payload.shownMean? (rated.map Rating.average)
    let means ← Scores.ofFnM fun c => Payload.shownMean? (scoresOf c rated)
    return { isbn, average, total := rated.length, stars, means }

end Statistics

/-! ## The whole store -/

/-- The figures of all ratings together. -/
structure Summary where
  total : Nat
  withReview : Nat
  readers : Nat
  average : Option Float
  stars : StarCounts
  mostReviewed : List String
deriving DecidableEq

namespace Summary

/-- The figures of an empty store. -/
def empty : Summary := ⟨0, 0, 0, none, .zero, []⟩

/-- The figures of a list of ratings but the most reviewed books. -/
def ofRatings (ratings : List Rating) : Except Fault Summary :=
  let rated := ratings.filter Rating.isRated
  if rated.isEmpty then .ok empty
  else do
    let stars ← StarCounts.ofRatings rated
    let average ← Payload.shownMean? (rated.map Rating.average)
    return { total := rated.length, withReview := (rated.filter (·.review.isSome)).length,
             readers := (rated.map Rating.username).eraseDups.length, average, stars,
             mostReviewed := [] }

end Summary

end Bookfinder
