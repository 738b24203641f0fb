import Bookfinder.Query.Basic
import Bookfinder.Rating.Criterion

/-!
# Faults

A `Fault` is the cause for which an operation gives no result. Some are about a value that came
in a wrong shape (`Fault.isUnreadable` holds of the ones that a decoder answers for by leaving
the record out), some are the library's own answers, and `external` is a failure of a service,
of the database or of the user's patience.
-/

namespace Bookfinder

/-- Where a failure that is not the library's own comes from. -/
inductive Origin where
  | database
  /-- The HTTP exchange failed in a way that is not worth a second try. -/
  | exchange
  /-- The user interrupted the program. -/
  | interruption
  | service
deriving DecidableEq, Repr

/-- What a failed search was for. -/
inductive Subject where
  | query (q : Query)
  | collection (name : String)
deriving DecidableEq, Repr

namespace Subject

/-- The subject of a search, for messages. -/
def inspected : Subject → String
  | .query q => q.inspected
  | .collection name => Text.quote name

end Subject

/-- Why an operation gives no result. -/
inductive Fault where
  /-- A text was needed. -/
  | notText
  /-- A record was needed. -/
  | notRecord
  /-- The value is of a kind that the operation does not take. -/
  | wrongKind
  /-- A text does not have the form that it should have. -/
  | malformed
  /-- A number is beyond the range of the reals. -/
  | overflow
  /-- A number cannot be rounded exactly. -/
  | inexact
  /-- The request is no query; `kind` names what it is. -/
  | unknownQuery (kind : String)
  | unknownSection (name : String)
  /-- The catalogue did not answer. -/
  | searchFailed (subject : Subject) (reason : String)
  /-- A submitted rating is refused. -/
  | invalidRating (flaw : Flaw)
  /-- Something outside the library failed and said `text`. -/
  | external (origin : Origin) (text : String)
deriving DecidableEq, Repr

namespace Fault

/-- The faults of a single bad record, for which a decoder leaves the record out. -/
def isUnreadable : Fault → Bool
  | .notText | .notRecord | .wrongKind | .malformed | .unknownQuery _ => true
  | _ => false

/-- The faults that the library reports to its users as answers of its own. -/
def isReported : Fault → Bool
  | .searchFailed .. | .invalidRating _ => true
  | _ => false

/-- A fault in words. -/
def message : Fault → String
  | .notText => "a text was needed"
  | .notRecord => "a record was needed"
  | .wrongKind => "the value is of the wrong kind"
  | .malformed => "the text is malformed"
  | .overflow => "the number is out of range"
  | .inexact => "the number cannot be rounded"
  | .unknownQuery kind => "Unknown query type: " ++ kind
  | .unknownSection name => Text.quote name
  | .searchFailed subject reason => "Search failed for " ++ subject.inspected ++ ": " ++ reason
  | .invalidRating flaw => "Invalid rating: " ++ flaw.reason ++ " (" ++ flaw.field ++ ")"
  | .external _ text => text

end Fault

end Bookfinder
