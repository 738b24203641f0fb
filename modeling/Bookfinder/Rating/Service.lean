import Bookfinder.Http.Client
import Bookfinder.Rating.Decoding

/-!
# The rating service

Ratings may also be kept by a service of their own. A `RatingService` asks it over a patient HTTP
client. Ratings and figures are `none` if the service gave no answer; an answer of another shape
than expected is a fault.
-/

namespace Bookfinder

/-- A client of the rating service. -/
structure RatingService (σ : Type) where
  client : Http.Client
  transport : Http.Transport σ

namespace RatingService

variable {σ : Type}

/-- The path that is made of the given parts. -/
def path (parts : List String) : String := String.join (parts.map ("/" ++ ·))

/-- Asks for the value under a path. -/
def read (s : RatingService σ) (parts : List String) : Action σ (Option Payload) :=
  s.client.request s.transport .get (path parts) none none

/-- Whether an answer says that a request was carried out. An answer that does not say counts
as such. -/
def wasCarriedOut (answer : Option Payload) : Except Fault Bool :=
  match answer with
  | none => .ok false
  | some p => do return ((← p.asRecord).find? "success").all Payload.isPresent

/-- Submits a rating and tells whether it was accepted. -/
def submit (s : RatingService σ) (r : Rating) : Action σ Bool := do
  wasCarriedOut (← s.client.request s.transport .post (path ["ratings", "add"]) none
    (some r.submission))

/-- Deletes a rating and tells whether the request was accepted. -/
def delete (s : RatingService σ) (username isbn : String) : Action σ Bool := do
  wasCarriedOut (← s.client.request s.transport .delete
    (path ["ratings", "user", username, "book", isbn]) none none)

/-- The ratings under a path. -/
def ratings (s : RatingService σ) (parts : List String) : Action σ (Option (List Rating)) := do
  match ← s.read parts with
  | some body => some <$> (Rating.listOfPayload body : Action σ (List Rating))
  | none => return none

/-- The ratings of a book. -/
def ratingsFor (s : RatingService σ) (isbn : String) : Action σ (Option (List Rating)) :=
  s.ratings ["ratings", "book", isbn]

/-- The ratings of a reader. -/
def userRatings (s : RatingService σ) (username : String) : Action σ (Option (List Rating)) :=
  s.ratings ["ratings", "user", username]

/-- The figures of a book. -/
def statistics (s : RatingService σ) (isbn : String) : Action σ (Option Statistics) := do
  match ← s.read ["ratings", "book", isbn, "statistics"] with
  | some body => some <$> (Statistics.ofPayload isbn body : Action σ Statistics)
  | none => return none

/-- The number in an answer, which stands alone or in a record. -/
def averageOf (answer : Payload) : Except Fault (Option Float) :=
  let value : Payload :=
    match answer with
    | .record fields => Payload.get fields "averageRating"
    | p => p
  match value with
  | .int _ | .real _ => some <$> value.toReal
  | _ => .ok none

/-- The mean of the ratings of a book; none if it is unrated or there is no answer. -/
def average (s : RatingService σ) (isbn : String) : Action σ (Option Float) := do
  match ← s.read ["ratings", "book", isbn, "average"] with
  | some body => averageOf body
  | none => return none

end RatingService

end Bookfinder
