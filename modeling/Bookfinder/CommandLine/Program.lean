import Bookfinder.CommandLine.Command
import Bookfinder.CommandLine.Report
import Bookfinder.Search.Collection
import Bookfinder.Settings

/-!
# The program

`Program.run` carries out a command line on a `Backend`: a database of ratings that is opened and
closed again, and a catalogue. What is printed goes to the `Console`, and stays there if the
command fails after it. The commands that show books go on without ratings if the database is
down; for the others the database is needed. However a command ends, the database that it opened
is closed.
-/

namespace Bookfinder.CommandLine

/-! ## Surroundings -/

/-- What the program makes use of. -/
structure Backend (σ : Type) where
  /-- Opens the database at an address. -/
  openDatabase : String → Action σ Unit
  /-- Makes an open database ready for ratings. -/
  prepareDatabase : Action σ Unit
  closeDatabase : Action σ Unit
  /-- The ratings in the open database. -/
  ratings : RatingStore σ
  /-- The catalogue, with concurrent requests if that is asked for. -/
  catalogue : Bool → Catalogue σ
  closeCatalogue : Bool → Action σ Unit
  /-- Reads the clock. -/
  now : Action σ Timestamp

/-- What was printed, and the state of what is outside. -/
structure Console (σ : Type) where
  printed : Listing
  outside : σ

namespace Console

variable {σ α : Type}

/-- Prints a listing. -/
def print (l : Listing) : Action (Console σ) Unit :=
  Action.update fun c => ((), { c with printed := c.printed ++ l })

/-- An action outside the console. -/
def reach (x : Action σ α) : Action (Console σ) α :=
  x.onPart Console.outside fun o c => { c with outside := o }

end Console

/-- How the program ended. -/
inductive Ending where
  /-- The arguments are no command. -/
  | refused (r : Refusal)
  | done
  /-- The user interrupted the command. -/
  | interrupted
  | failed
deriving DecidableEq, Repr

namespace Ending

/-- The exit code that the program asks for; none if it just ends. -/
def exitCode? : Ending → Option Nat
  | .refused r => some r.exitCode
  | .done => none
  | .interrupted => some 0
  | .failed => some 1

end Ending

/-! ## Commands -/

namespace Backend

variable {σ α : Type}

/-- Opens the database and makes it ready. -/
def openReady (b : Backend σ) (s : Settings) : Action σ Unit := do
  b.openDatabase s.databaseAddress
  b.prepareDatabase

/-- A part of a command during which the database is open. -/
def withDatabase (b : Backend σ) (s : Settings) (body : Action (Console σ) Unit) :
    Action (Console σ) Unit := do
  Console.reach (b.openReady s)
  body.always (Console.reach b.closeDatabase)

/-- Opens the database if it can be reached, and tells whether it could. -/
def tryDatabase (b : Backend σ) (s : Settings) : Action (Console σ) Bool :=
  tryCatch (do
      Console.reach (b.openReady s)
      return true) fun f => do
    match f with
    | .external .database _ =>
      Action.note (.ratingsUnavailable f)
      return false
    | _ => throw f

/-- What searches make use of. -/
def services (b : Backend σ) (usesAsync hasRatings : Bool) : Services (Console σ) where
  catalogue call := Console.reach (b.catalogue usesAsync call)
  ratings :=
    if hasRatings then
      some (b.ratings.onPart Console.outside fun o c => { c with outside := o })
    else none

/-- An action of a session of its own, in which nothing was shown before. -/
def inSession (x : Action (Session (Console σ)) α) : Action (Console σ) α := fun c =>
  let (o, s) := x ⟨Navigation.empty, c⟩
  (o, s.outside)

/-- A command that shows books, with their ratings if the database can be reached. -/
def withBooks (b : Backend σ) (s : Settings) (usesAsync : Bool)
    (body : Services (Console σ) → Action (Session (Console σ)) Unit) :
    Action (Console σ) Unit := do
  let hasRatings ← b.tryDatabase s
  let main : Action (Console σ) Unit :=
    (inSession (body (b.services usesAsync hasRatings))).always
      (Console.reach (b.closeCatalogue usesAsync))
  if hasRatings then main.always (Console.reach b.closeDatabase) else main

/-- Prints within a session. -/
def display (l : Listing) : Action (Session (Console σ)) Unit := Session.reach (Console.print l)

/-- Searches the catalogue and shows the results. -/
def showSearch (query : String) (layout : Listing.Layout) (services : Services (Console σ)) :
    Action (Session (Console σ)) Unit := do
  match ← Session.search services (some query) none with
  | none => display Report.emptyQuery
  | some r =>
    display (Report.results r.query r.usedFallback r.books.length)
    display (← Listing.books (some layout) r.books)

/-- Shows a curated section. -/
def showCollection (name : String) (layout : Listing.Layout) (services : Services (Console σ)) :
    Action (Session (Console σ)) Unit := do
  let books ← Session.loadCollection services name
  display (← Listing.books (some layout) books)

/-- Shows the books with the given ISBNs as a ranking. -/
def showRanking (b : Backend σ) (isbns : List String) : Action (Console σ) Unit := do
  let books ← Console.reach (isbns.mapM fun isbn => b.ratings.statistics (.text isbn))
  Console.print (Report.ranking books)

end Backend

namespace Command

variable {σ : Type}

/-- Carries out a command. -/
def execute (b : Backend σ) (s : Settings) : Command → Action (Console σ) Unit
  | .search query layout usesAsync => b.withBooks s usesAsync (Backend.showSearch query layout)
  | .collection name layout usesAsync =>
    b.withBooks s usesAsync (Backend.showCollection name layout)
  | .stats isbn => b.withDatabase s do
    Console.print (Report.statistics isbn (← Console.reach (b.ratings.statistics (.text isbn))))
  | .top limit => b.withDatabase s do
    b.showRanking (← Console.reach (b.ratings.topRated s.leastRatings (some limit)))
  | .mostReviewed limit => b.withDatabase s do
    b.showRanking (← Console.reach (b.ratings.mostReviewed (some limit)))
  | .summary => b.withDatabase s do
    Console.print (Report.summary (← Console.reach (b.ratings.summary (some defaultTop))))
  | .rate draft => b.withDatabase s do
    let saved ← Console.reach (b.ratings.submit b.now (← draft.rating))
    Console.print (← Report.saved saved)
  | .unrate username isbn => b.withDatabase s do
    let existed ← Console.reach (b.ratings.remove (.ofText? username) (.ofText? isbn))
    Console.print (Report.removed existed (username.getD "") (isbn.getD ""))

end Command

/-! ## Runs -/

namespace Program

variable {σ : Type}

/-- How a command ends that a fault has cut short; all but an interruption is reported. -/
def endingOf (f : Fault) : Action (Console σ) Ending := do
  match f with
  | .external .interruption _ => return .interrupted
  | _ =>
    Action.note (if f.isReported then .commandRefused f else .commandFailed f)
    return .failed

/-- Carries out a command line. -/
def run (b : Backend σ) (s : Settings) (args : List String) : Action (Console σ) Ending := do
  match Command.parse args with
  | .error r => return .refused r
  | .ok command =>
    match ← (command.execute b s).attempt with
    | .ok () => return .done
    | .error f => endingOf f

end Program

end Bookfinder.CommandLine
