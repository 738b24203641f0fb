import Bookfinder.Fault
import Bookfinder.Payload.Display

/-!
# Notices

What an operation reports besides its result. A `Notice` is the event; `Notice.level` and
`Notice.text` say how it is logged.
-/

namespace Bookfinder

/-- How serious a notice is. -/
inductive Level where
  | warning
  | error
deriving DecidableEq, Repr

/-- The name of a level. -/
def Level.name : Level → String
  | .warning => "WARNING"
  | .error => "ERROR"

/-- Something worth reporting. -/
inductive Notice where
  /-- The years after a year mark cannot be read and are left out. -/
  | malformedYears (run query : String)
  | unreadableBook (cause : Fault)
  /-- A catalogue answered with a value of kind `kind`. -/
  | unexpectedCatalogue (kind : String)
  /-- The list of books in a catalogue's answer is of kind `kind`. -/
  | unexpectedBooks (kind : String)
  | unreadableTimestamp (value : Payload)
  | unreadableRating (cause : Fault)
  /-- The first call for a query failed; `query` is the query as it is written. -/
  | primaryFailed (query : String)
  | fallbackFailed (query : String)
  | sectionUnavailable (name reason : String)
  /-- The service asks for fewer requests; attempts count from one. -/
  | rateLimited (attempt : Nat)
  | serverError (status : Int) (attempt : Nat)
  | clientError (status : Int) (body : String)
  | timedOut (attempt : Nat)
  | connectionFailed (attempt : Nat) (text : String)
  /-- The body of an accepted answer is no JSON. -/
  | malformedBody (address : String)
  | attemptsExhausted (attempts : Int)
  /-- A status other than 200 in an exchange without a second try. -/
  | refusedStatus (status : Int) (path : String)
  | exchangeFailed (text : String)
  | ratingNotSaved (cause : Fault)
  | ratingsUnavailable (cause : Fault)
  /-- A command ended with an answer that the library reports. -/
  | commandRefused (cause : Fault)
  /-- A command ended with another fault. -/
  | commandFailed (cause : Fault)
deriving DecidableEq

namespace Notice

/-- How serious a notice is. -/
def level : Notice → Level
  | .malformedYears .. | .unreadableBook _ | .unexpectedCatalogue _ | .unexpectedBooks _
  | .unreadableTimestamp _ | .unreadableRating _ | .primaryFailed _ | .rateLimited _
  | .serverError .. | .timedOut _ | .connectionFailed .. | .refusedStatus ..
  | .ratingsUnavailable _ => .warning
  | .fallbackFailed _ | .sectionUnavailable .. | .clientError .. | .malformedBody _
  | .attemptsExhausted _ | .exchangeFailed _ | .ratingNotSaved _ | .commandRefused _
  | .commandFailed _ => .error

/-- A notice in words. -/
def text : Notice → String
  | .malformedYears run query =>
    "Ignoring malformed year range " ++ Text.quote run ++ " in query: " ++ query
  | .unreadableBook cause => "Failed to parse book: " ++ cause.message
  | .unexpectedCatalogue kind => "Unexpected catalog response: " ++ kind
  | .unexpectedBooks kind => "Unexpected 'books' value: " ++ kind
  | .unreadableTimestamp value => "Unparseable rating timestamp: " ++ value.display
  | .unreadableRating cause => "Failed to parse rating: " ++ cause.message
  | .primaryFailed query => "Primary search failed for " ++ Text.quote query ++ ", falling back"
  | .fallbackFailed query => "Fallback search failed for " ++ Text.quote query
  | .sectionUnavailable name reason => "Section '" ++ name ++ "' unavailable: " ++ reason
  | .rateLimited attempt => "Rate limited (429) on attempt " ++ Number.writtenInt attempt
  | .serverError status attempt =>
    "Server error (" ++ Number.writtenInt status ++ ") on attempt " ++ Number.writtenInt attempt
  | .clientError status body => "Client error (" ++ Number.writtenInt status ++ "): " ++ body
  | .timedOut attempt => "Timeout on attempt " ++ Number.writtenInt attempt
  | .connectionFailed attempt text =>
    "Connection error on attempt " ++ Number.writtenInt attempt ++ ": " ++ text
  | .malformedBody address => "Invalid JSON from " ++ address
  | .attemptsExhausted attempts => "All " ++ Number.writtenInt attempts ++ " attempts failed"
  | .refusedStatus status path => "Status " ++ Number.writtenInt status ++ " for " ++ path
  | .exchangeFailed text => "Async request failed: " ++ text
  | .ratingNotSaved cause => "Failed to save rating: " ++ cause.message
  | .ratingsUnavailable cause =>
    "Ratings unavailable, searching without them: " ++ cause.message
  | .commandRefused cause => "❌ " ++ cause.message
  | .commandFailed cause => "❌ Error: " ++ cause.message

end Notice

end Bookfinder
