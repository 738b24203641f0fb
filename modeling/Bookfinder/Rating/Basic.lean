import Bookfinder.Payload.Conversion
import Bookfinder.Rating.Criterion
import Bookfinder.Text.Lowercase
import Bookfinder.Timestamp.Basic

/-!
# Ratings

A `Rating` is what one reader thinks of one book. It is made from a `Draft`, whose fields may be
anything, by `Draft.rating`: names are trimmed, the reader's name also goes to lower case, a blank
review counts as none, and the average is worked out if all scores are there and no average is
given. `Rating.flaw?` finds the first thing that is wrong with a submission.
-/

namespace Bookfinder

/-- The fields of a rating before they are brought in order. -/
structure Draft where
  username : Payload
  isbn : Payload
  scores : Scores Payload
  review : Payload
  average : Payload
  createdAt : Option Timestamp
deriving DecidableEq

/-- One reader's rating of one book. -/
structure Rating where
  username : String
  isbn : String
  scores : Scores Payload
  review : Option String
  average : Payload
  createdAt : Option Timestamp
deriving DecidableEq

/-- The form of a reader's name that ratings are stored under. -/
def normalUsername (s : String) : String := Text.lowercase (Text.trim s)

namespace Draft

/-- A name field as a text; what is not present is the empty text. -/
def name (p : Payload) : Except Fault String :=
  if p.isPresent then p.asText else .ok ""

/-- A review without blanks around it; none if it is blank. -/
def trimmedReview (p : Payload) : Except Fault (Option String) :=
  if p = .null then .ok none
  else do
    let s := Text.trim (← p.asText)
    return if s.isEmpty then none else some s

/-- Whether each criterion has a score. -/
def isComplete (scores : Scores Payload) : Bool := scores.toList.all (· != .null)

/-- The mean of the scores as it is shown. -/
def averageOf (scores : Scores Payload) : Except Fault Float := do
  (Payload.real (← Payload.mean scores.toList)).halfUp Payload.shownPlaces

/-- The rating that a draft makes. -/
def rating (d : Draft) : Except Fault Rating := do
  let username ← name d.username
  let isbn ← name d.isbn
  let review ← trimmedReview d.review
  let average ←
    if d.average = .null && isComplete d.scores then Payload.real <$> averageOf d.scores
    else pure d.average
  return { username := normalUsername username, isbn := Text.trim isbn, scores := d.scores,
           review, average, createdAt := d.createdAt }

end Draft

namespace Rating

/-- The fields of a rating as a draft. -/
def draft (r : Rating) : Draft :=
  { username := .text r.username, isbn := .text r.isbn, scores := r.scores,
    review := .ofText? r.review, average := r.average, createdAt := r.createdAt }

/-- Whether each criterion has a score. -/
def isComplete (r : Rating) : Bool := Draft.isComplete r.scores

/-- Whether the rating carries an average. -/
def isRated (r : Rating) : Bool := r.average != .null

/-! ## Submissions -/

/-- The lowest score. -/
def minScore : Int := 1

/-- The highest score. -/
def maxScore : Int := 5

/-- What is wrong with a score. -/
def scoreFlaw? (c : Criterion) : Payload → Option Flaw
  | .null => some (.missingScore c)
  | .int i => if minScore ≤ i ∧ i ≤ maxScore then none else some (.scoreOutOfRange c)
  | _ => some (.scoreOutOfRange c)

/-- The first thing that is wrong with a submission. -/
def flaw? (r : Rating) : Option Flaw :=
  if r.username.isEmpty then some .missingUsername
  else if r.isbn.isEmpty then some .missingIsbn
  else Criterion.all.findSome? fun c => scoreFlaw? c (r.scores.get c)

/-- Refuses a submission with a flaw. -/
def validate (r : Rating) : Except Fault Unit :=
  match r.flaw? with
  | some flaw => .error (.invalidRating flaw)
  | none => .ok ()

/-- What is sent to submit a rating. -/
def submission (r : Rating) : Payload :=
  .record ([("username", .text r.username), ("isbn", .text r.isbn)] ++
    Criterion.all.map (fun c => (c.name, r.scores.get c)) ++
    (r.review.map fun s => ("review", Payload.text s)).toList)

/-! ## Stars and labels -/

/-- The average if it is above zero. -/
def positiveAverage? (r : Rating) : Except Fault (Option Number) :=
  if r.isRated then do
    let n ← r.average.toNumber
    return if n.atMost (.int 0) then none else some n
  else .ok none

/-- The whole stars of a rating, from one to five; zero if it is unrated. -/
def stars (r : Rating) : Except Fault Nat := do
  match ← r.positiveAverage? with
  | none => return 0
  | some _ =>
    let whole ← Payload.wholePart (← r.average.halfUp 0)
    return (max minScore (min maxScore whole)).toNat

/-- The least averages of the labels, the best first, in tenths. -/
def labels : List (Nat × String) :=
  [(45, "Excellent"), (40, "Very good"), (35, "Good"), (30, "Fair"), (25, "Sufficient"),
   (20, "Mediocre")]

/-- The average in words. -/
def label (r : Rating) : Except Fault String := do
  match ← r.positiveAverage? with
  | none => return "Not rated"
  | some n =>
    let reached (tenths : Nat) : Bool :=
      n.atLeast (.real (Decimal.toFloat ⟨false, tenths, -1⟩))
    return ((labels.find? fun l => reached l.1).map (·.2)).getD "Poor"

end Rating

end Bookfinder
