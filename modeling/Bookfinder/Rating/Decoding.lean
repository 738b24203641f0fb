import Bookfinder.Book.Decoding
import Bookfinder.Rating.Basic
import Bookfinder.Rating.Statistics
import Bookfinder.Timestamp.Reading

/-!
# Decoding ratings

The records of the rating service: single ratings, lists of them, and the figures of a book. A
rating that cannot be read is left out with a notice; a record without a reader or a book is left
out in silence. The figures of a book have no such tolerance.
-/

namespace Bookfinder

namespace Rating

/-- The timestamp of a rating. One that cannot be read is left out with a notice. -/
def decodeTimestamp (p : Payload) : Outcome (Option Timestamp) :=
  if p.isPresent then
    match Timestamp.parse? p.display with
    | some t => return some t
    | none => do
      Outcome.note (.unreadableTimestamp p)
      return none
  else return none

/-- An optional integer as a payload. -/
def optionalScore (p : Payload) : Except Fault Payload := Payload.ofInt? <$> p.toInt?

/-- The rating in a record. -/
def decode (p : Payload) : Outcome (Option Rating) := do
  let fields ← p.asRecord
  let get := Payload.get fields
  if !(get "username").isPresent || !(get "isbn").isPresent then return none
  let scores ← Scores.ofFnM fun c => optionalScore (get c.name)
  let average ← (get "average").toReal?
  let createdAt ← decodeTimestamp (get "data")
  let d : Draft :=
    { username := get "username", isbn := get "isbn", scores, review := get "review",
      average := .ofReal? average, createdAt }
  some <$> (d.rating : Outcome Rating)

/-- The rating in a record, or none with a notice if the record cannot be read. -/
def ofPayload (p : Payload) : Outcome (Option Rating) :=
  Outcome.orSkip .unreadableRating (decode p)

/-- The ratings of an answer. -/
def listOfPayload (body : Payload) : Outcome (List Rating) := do
  let ratings := Payload.get (← body.asRecord) "ratings"
  let items ← if ratings.isPresent then ratings.elements else pure []
  Outcome.collect ofPayload items

end Rating

namespace Statistics

/-- The name of the number of ratings with so many stars. -/
def starsName : Star → String
  | .one => "oneStar"
  | .two => "twoStars"
  | .three => "threeStars"
  | .four => "fourStars"
  | .five => "fiveStars"

/-- The name of the mean of a criterion. -/
def meanName : Criterion → String
  | .style => "averageStyle"
  | .content => "averageContent"
  | .pleasantness => "averagePleasantness"
  | .originality => "averageOriginality"
  | .edition => "averageEdition"

/-- The figures of a book in an answer. -/
def ofPayload (isbn : String) (body : Payload) : Except Fault Statistics := do
  let get := Payload.get (← body.asRecord)
  let total := (← (get "totalRatings").toInt?).getD 0
  if total = 0 then return unrated isbn
  let breakdown := get "ratingBreakdown"
  let figures ← if breakdown.isPresent then breakdown.asRecord else pure []
  let stars ← StarCounts.ofFnDownM fun s => do
    return (← (Payload.get figures (starsName s)).toInt?).getD 0
  let average ← (get "averageRating").toReal?
  let means ← Scores.ofFnM fun c => (Payload.get figures (meanName c)).toReal?
  return { isbn, average, total, stars, means }

end Statistics

end Bookfinder
