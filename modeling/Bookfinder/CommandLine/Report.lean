import Bookfinder.Listing
import Bookfinder.Query.Writing
import Bookfinder.Rating.Statistics

/-!
# Reports

What the commands print about ratings: the figures of a book, a ranking, the figures of all
ratings, and the line after a rating was kept or forgotten.
-/

namespace Bookfinder.Report

/-- The rule above and below a heading. -/
def rule : String := String.ofList (List.replicate 50 '=')

/-- A heading between two rules, after an empty line. -/
def heading (text : String) : Listing :=
  [.text "\n", Listing.line rule, Listing.line text, Listing.line rule]

/-- The rule at the end of a report, before an empty line. -/
def footer : Listing := [Listing.line rule, .text "\n"]

/-- The line with the number of ratings that have so many stars. -/
def starLine (stars : StarCounts) (s : Star) : Piece :=
  let marks := List.replicate s.count '★' ++ List.replicate (5 - s.count) ' '
  Listing.line (String.ofList marks ++ " " ++ Number.writtenInt (stars.get s))

/-- The lines with the numbers of ratings by stars, the most stars first. -/
def starLines (stars : StarCounts) : Listing := Star.all.reverse.map (starLine stars)

/-! ## One book -/

/-- The name of a criterion in a table. -/
def criterionTitle : Criterion → String
  | .style => "Style"
  | .content => "Content"
  | .pleasantness => "Pleasantness"
  | .originality => "Originality"
  | .edition => "Edition"

/-- The table of the means by criterion. -/
def meansTable (means : Scores (Option Float)) : Table where
  headers := ["Criterion", "Average"]
  rows := Criterion.all.map fun c => [.text (criterionTitle c), .ofReal? (means.get c)]
  frame := .simple

/-- The figures of a book that has ratings. -/
def figures (average : Float) (s : Statistics) : Listing :=
  Listing.line ("Average rating: " ++ Number.fixedPlaces 2 average ++ " (" ++
      Number.writtenInt s.total ++ " ratings)") ::
    [.table (meansTable s.means), .text "\n", .text "\n"] ++ starLines s.stars

/-- The figures of a book under a heading with its ISBN. -/
def statistics (isbn : String) (s : Statistics) : Listing :=
  let body :=
    match s.average with
    | some average => figures average s
    | none => [Listing.line "No ratings yet"]
  heading ("RATINGS FOR " ++ isbn) ++ body ++ footer

/-! ## Rankings -/

/-- The row of a book in a ranking. -/
def rankingRow (s : Statistics) (position : Nat) : List Payload :=
  [.int position, .text s.isbn, .ofReal? s.average, .int s.total]

/-- The books of a ranking with their figures, the first one first. -/
def ranking (books : List Statistics) : Listing :=
  Listing.tableBlock
    { headers := ["#", "ISBN", "Average", "Ratings"]
      rows := List.zipWith rankingRow books (List.range' 1 books.length)
      frame := .grid }

/-! ## All ratings -/

/-- A line with a name and a value. -/
def entry (name value : String) : Piece := Listing.line (name ++ ": " ++ value)

/-- The figures of all ratings. -/
def summary (s : Summary) : Listing :=
  heading "RATING SUMMARY" ++
    [entry "Total ratings" (Number.writtenInt s.total),
     entry "Ratings with a review" (Number.writtenInt s.withReview),
     entry "Users" (Number.writtenInt s.readers),
     entry "Global average" ((s.average.map fun x => (Payload.real x).display).getD "-")] ++
    starLines s.stars ++
    (if s.mostReviewed.isEmpty then []
      else [entry "Most reviewed" (String.intercalate ", " s.mostReviewed)]) ++
    footer

/-! ## Changes -/

/-- The line after a rating was kept: its average, in words too, and the book. -/
def saved (r : Rating) : Except Fault Listing := do
  let average ← r.average.toReal
  return [Listing.line ("✅ Saved rating " ++ Number.fixedPlaces 2 average ++ " (" ++ (← r.label) ++
    ") for " ++ r.isbn)]

/-- The line after a rating was to be forgotten. -/
def removed (existed : Bool) (username isbn : String) : Listing :=
  [Listing.line (if existed then "✅ Deleted rating for " ++ isbn
    else "No rating by " ++ username ++ " for " ++ isbn)]

/-! ## Searches -/

/-- The line when there is nothing to search for. -/
def emptyQuery : Listing := [Listing.line "Empty query - nothing to search"]

/-- The heading over the results of a search. The query was read, so that its years can be
written. -/
def results (q : Query) (usedFallback : Bool) (count : Nat) : Listing :=
  [.text "\n", Listing.line (q.described ++ (if usedFallback then " (filtered locally)" else "") ++
    " (" ++ Number.writtenInt count ++ ")")]

end Bookfinder.Report
