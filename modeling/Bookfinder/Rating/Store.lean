import Bookfinder.Book.Basic
import Bookfinder.Outcome
import Bookfinder.Rating.Ranking
import Bookfinder.Rating.Statistics

/-!
# Rating stores

A `RatingStore σ` is a place that keeps ratings, one for each reader and book, with its state in
`σ`. Names come as payloads, since callers pass on what they were given; a store refuses what is
no text. On any store, `submit` accepts a valid rating, `statistics`, `topRated`, `mostReviewed`
and `summary` report figures, and `enrich` adds the figures of books to a list of them.
-/

namespace Bookfinder

/-- The ratings of several books, each list under its ISBN. -/
abbrev RatingsByBook : Type := Association (List Rating)

namespace RatingsByBook

/-- The ratings under an ISBN. -/
def get (groups : RatingsByBook) (isbn : String) : List Rating :=
  (Association.find? groups isbn).getD []

/-- One more rating, in the group of its ISBN, which is new at the end if there is none. -/
def add (groups : RatingsByBook) (r : Rating) : RatingsByBook :=
  Association.put groups r.isbn (groups.get r.isbn ++ [r])

/-- Ratings grouped by ISBN, in their order. -/
def ofList (ratings : List Rating) : RatingsByBook := ratings.foldl add []

end RatingsByBook

/-- A place that keeps ratings. -/
structure RatingStore (σ : Type) where
  /-- The rating of a reader, the first argument, for a book. -/
  get : Payload → Payload → Action σ (Option Rating)
  /-- Keeps a rating, in place of the one of the same reader for the same book. -/
  save : Rating → Action σ Rating
  /-- Forgets a rating and tells whether there was one. -/
  remove : Payload → Payload → Action σ Bool
  /-- The ratings of a book, the newest first. -/
  ratingsFor : Payload → Action σ (List Rating)
  /-- The ratings of several books. -/
  ratingsForBooks : List Payload → Action σ RatingsByBook
  /-- The ratings of a reader, the newest first. -/
  userRatings : Payload → Action σ (List Rating)
  allRatings : Action σ (List Rating)

namespace RatingStore

variable {σ τ : Type}

/-- A store whose state is a part of a larger one. -/
def onPart (read : τ → σ) (write : σ → τ → τ) (store : RatingStore σ) : RatingStore τ where
  get username isbn := (store.get username isbn).onPart read write
  save r := (store.save r).onPart read write
  remove username isbn := (store.remove username isbn).onPart read write
  ratingsFor isbn := (store.ratingsFor isbn).onPart read write
  ratingsForBooks isbns := (store.ratingsForBooks isbns).onPart read write
  userRatings username := (store.userRatings username).onPart read write
  allRatings := store.allRatings.onPart read write

/-! ## Submissions -/

/-- Keeps a submitted rating with the average of its scores and the time `now`. A rating with a
flaw is refused and the clock is not read. -/
def submit (store : RatingStore σ) (now : Action σ Timestamp) (r : Rating) : Action σ Rating := do
  r.validate
  let average ← Draft.averageOf r.scores
  let time ← now
  let stamped ← { r.draft with average := .real average, createdAt := some time }.rating
  let _ ← store.get (.text stamped.username) (.text stamped.isbn)
  store.save stamped

/-! ## Figures -/

/-- The mean of the ratings of a book as it is shown; none if it is unrated. -/
def average (store : RatingStore σ) (isbn : Payload) : Action σ (Option Float) := do
  let ratings ← store.ratingsFor isbn
  Payload.shownMean? ((ratings.filter Rating.isRated).map Rating.average)

/-- The figures of a book. -/
def statistics (store : RatingStore σ) (isbn : Payload) : Action σ Statistics := do
  let ratings ← store.ratingsFor isbn
  Statistics.ofRatings (← isbn.asText) ratings

/-- The ISBNs of the best rated books among those with at least `least` ratings. -/
def topRated (store : RatingStore σ) (least : Int) (limit : Option Int) :
    Action σ (List String) := do
  Bookfinder.topRated least limit (← store.allRatings)

/-- The ISBNs of the books with most ratings. -/
def mostReviewed (store : RatingStore σ) (limit : Option Int) : Action σ (List String) := do
  Bookfinder.mostReviewed limit (← store.allRatings)

/-- The figures of all ratings, with up to `top` of the most reviewed books. -/
def summary (store : RatingStore σ) (top : Option Int) : Action σ Summary := do
  let s ← Summary.ofRatings (← store.allRatings)
  if s.total = 0 then return s
  return { s with mostReviewed := ← store.mostReviewed top }

/-! ## Books -/

/-- A book with the figures of its ratings. A book without an ISBN stays as it is. -/
def withFigures (groups : RatingsByBook) (b : Book) : Except Fault Book :=
  match b.knownIsbn? with
  | none => .ok b
  | some isbn => do
    let s ← Statistics.ofRatings isbn (groups.get (Text.trim isbn))
    return { b with averageRating := s.average, reviewCount := s.total }

/-- Books with the figures of their ratings, which are looked up at once for all of them; not at
all if none of them has an ISBN. -/
def enrich (store : RatingStore σ) (books : List Book) : Action σ (List Book) := do
  let isbns := (books.filterMap Book.knownIsbn?).eraseDups
  if isbns.isEmpty then return books
  let groups ← store.ratingsForBooks (isbns.map .text)
  books.mapM fun b => withFigures groups b

end RatingStore

end Bookfinder
