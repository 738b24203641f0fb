import Bookfinder.Rating.Ledger
import Bookfinder.Timestamp.Reading

/-!
# Records of ratings

How ratings and figures are kept and passed on as JSON. `Rating.record` has a field for each part
of a rating and `Rating.ofRecord` makes a rating of one; a record with a field of another name is
refused. `Ledger.record` and `Ledger.ofRecord` do the same for all ratings of a ledger.
-/

namespace Bookfinder

/-- The time in a record; null stands for none. -/
def Timestamp.ofPayload : Payload → Except Fault (Option Timestamp)
  | .null => .ok none
  | .text s => (Timestamp.parse? s).elim (.error .malformed) (.ok ∘ some)
  | _ => .error .wrongKind

namespace Rating

/-- The names of the fields of a rating. -/
def fieldNames : List String :=
  ["username", "isbn"] ++ Criterion.all.map Criterion.name ++ ["review", "average", "created_at"]

/-- The record of a rating. -/
def record (r : Rating) : Payload :=
  .record ([("username", .text r.username), ("isbn", .text r.isbn)] ++
    Criterion.all.map (fun c => (c.name, r.scores.get c)) ++
    [("review", .ofText? r.review), ("average", r.average),
      ("created_at", .ofText? (r.createdAt.map Timestamp.written))])

/-- The rating of a record. A field that is missing counts as null. -/
def ofRecord (p : Payload) : Except Fault Rating := do
  let fields ← p.asRecord
  if fields.any fun f => !fieldNames.contains f.1 then .error .wrongKind
  let get := Payload.get fields
  let d : Draft :=
    { username := get "username"
      isbn := get "isbn"
      scores := Scores.ofFn fun c => get c.name
      review := get "review"
      average := get "average"
      createdAt := ← Timestamp.ofPayload (get "created_at") }
  d.rating

end Rating

namespace Ledger

/-- The records of the ratings of a ledger. -/
def record (l : Ledger) : Payload := .list (l.ratings.map Rating.record)

/-- The ledger of a list of records; what is not present stands for an empty one. -/
def ofRecord (p : Payload) : Except Fault Ledger :=
  if p.isPresent then do
    let ratings ← (← p.elements).mapM Rating.ofRecord
    return ⟨ratings.foldl (fun all r => putIn r all) []⟩
  else .ok empty

end Ledger

/-! ## Figures -/

/-- The record of the numbers of ratings by stars. -/
def StarCounts.record (h : StarCounts) : Payload :=
  .record (Star.all.map fun s => (Number.writtenInt s.count, .int (h.get s)))

/-- The record of the figures of a book. -/
def Statistics.record (s : Statistics) : Payload :=
  .record ([("isbn", .text s.isbn), ("average_rating", .ofReal? s.average),
      ("total_ratings", .int s.total), ("star_distribution", s.stars.record),
      ("has_ratings", .bool s.hasRatings)] ++
    Criterion.all.map fun c => ("average_" ++ c.name, .ofReal? (s.means.get c)))

/-- The record of the figures of all ratings. -/
def Summary.record (s : Summary) : Payload :=
  .record [("total_ratings", .int s.total), ("ratings_with_review", .int s.withReview),
    ("total_users", .int s.readers), ("average_rating", .ofReal? s.average),
    ("star_distribution", s.stars.record),
    ("most_reviewed", .list (s.mostReviewed.map .text))]

/-- The record of the ratings of several books. -/
def RatingsByBook.record (groups : RatingsByBook) : Payload :=
  .record (groups.map fun g => (g.1, .list (g.2.map Rating.record)))

end Bookfinder
