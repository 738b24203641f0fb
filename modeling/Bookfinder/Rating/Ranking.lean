import Bookfinder.Rating.Basic
import Bookfinder.Sorting

/-!
# Rankings

A `Standing` is a book with the averages of its ratings, and a `Rank` the figures that it is
ranked by: their mean and their number. `topRated` lists the books by mean and `mostReviewed` by
number; of books that agree in both the one with the lower ISBN comes first.
-/

namespace Bookfinder

/-- A book with the averages of its ratings. -/
structure Standing where
  isbn : String
  averages : List Payload

/-- A list of standings with one more average, in the order in which the books first came. -/
def addAverage (isbn : String) (average : Payload) : List Standing → List Standing
  | [] => [⟨isbn, [average]⟩]
  | s :: rest =>
    if s.isbn = isbn then { s with averages := s.averages ++ [average] } :: rest
    else s :: addAverage isbn average rest

/-- The averages of each book. -/
def standings (ratings : List Rating) : List Standing :=
  (ratings.filter Rating.isRated).foldl (fun all r => addAverage r.isbn r.average all) []

/-- A book with the figures that it is ranked by. -/
structure Rank where
  isbn : String
  mean : Float
  count : Nat

namespace Rank

/-- The figures of a standing. -/
def ofStanding (s : Standing) : Except Fault Rank := do
  return ⟨s.isbn, ← Payload.mean s.averages, s.averages.length⟩

/-- Whether the mean of `a` comes before that of `b`; `tie` decides between equal means. A mean
that is no number comes before and after none. -/
def higherMean (a b : Rank) (tie : Bool) : Bool :=
  if a.mean == b.mean then tie else b.mean < a.mean

/-- Whether `a` has more ratings than `b`; `tie` decides between equal counts. -/
def moreRatings (a b : Rank) (tie : Bool) : Bool :=
  if a.count = b.count then tie else b.count < a.count

/-- Whether `a` is better rated than `b`: by mean, then by count, then by ISBN. -/
def better (a b : Rank) : Bool := higherMean a b (moreRatings a b (a.isbn < b.isbn))

/-- Whether `a` is more reviewed than `b`: by count, then by mean, then by ISBN. -/
def busier (a b : Rank) : Bool := moreRatings a b (higherMean a b (a.isbn < b.isbn))

/-- Ranks in the order of `before`. Where a mean is no number there is no such order, and the
place of each rank is the one that halving finds. -/
def sorted (before : Rank → Rank → Bool) (ranks : List Rank) : List Rank :=
  if ranks.any (·.mean.isNaN) then Sorting.byHalving before ranks
  else ranks.mergeSort fun a b => !before b a

/-- Sorting neither loses nor adds a rank. -/
theorem sorted_perm (before : Rank → Rank → Bool) (ranks : List Rank) :
    (sorted before ranks).Perm ranks := by
  unfold sorted
  split
  · exact Sorting.byHalving_perm before ranks
  · exact List.mergeSort_perm ranks _

end Rank

/-- How many books a ranking shows unless it is asked for another number. -/
def defaultLimit : Int := 10

/-- How many of the most reviewed books a summary shows unless it is asked for another number. -/
def defaultTop : Int := 5

/-- How many ratings a book needs to be ranked unless another number is set. -/
def defaultLeast : Int := 2

/-- The start of a list: all of it without a limit, and with a negative limit all but so many. -/
def upTo {α : Type} (limit : Option Int) (as : List α) : List α :=
  match limit with
  | none => as
  | some n => if 0 ≤ n then as.take n.toNat else as.take (as.length - n.natAbs)

/-- The ISBNs of the best rated books among those with at least `least` ratings. -/
def topRated (least : Int) (limit : Option Int) (ratings : List Rating) :
    Except Fault (List String) := do
  let ranks ← ((standings ratings).filter fun s => least ≤ s.averages.length).mapM Rank.ofStanding
  return (upTo limit (Rank.sorted Rank.better ranks)).map Rank.isbn

/-- The ISBNs of the books with most ratings. -/
def mostReviewed (limit : Option Int) (ratings : List Rating) : Except Fault (List String) := do
  let ranks ← (standings ratings).mapM Rank.ofStanding
  return (upTo limit (Rank.sorted Rank.busier ranks)).map Rank.isbn

end Bookfinder
