import Bookfinder.CommandLine.Grammar
import Bookfinder.Listing
import Bookfinder.Navigation
import Bookfinder.Rating.Ranking

/-!
# Commands

What the program can be asked to do. `Command.parse` reads a command from its arguments: the name
of a command and what it takes. Switches before the name are taken for misuse, once the command
itself is found to be in order.
-/

namespace Bookfinder.CommandLine

/-- What the program is asked to do. -/
inductive Command where
  | search (query : String) (layout : Listing.Layout) (usesAsync : Bool)
  | collection (name : String) (layout : Listing.Layout) (usesAsync : Bool)
  | stats (isbn : String)
  | top (limit : Int)
  | mostReviewed (limit : Int)
  | summary
  | rate (draft : Draft)
  | unrate (username isbn : Option String)

namespace Command

/-! ## What the commands take -/

/-- The switches of the commands that show books. -/
def listingSwitches : List Switch :=
  [⟨"--format", some (.oneOf ["table", "json", "compact"])⟩, ⟨"--async", none⟩]

/-- The slots of a reader and a book. -/
def ratingSlots : List Slot := [⟨"username", .text⟩, ⟨"isbn", .text⟩]

/-- What the search command takes. -/
def searchGrammar : Grammar := ⟨[⟨"query", .text⟩], listingSwitches⟩

/-- What the command for curated sections takes. -/
def collectionGrammar : Grammar :=
  ⟨[⟨"section", .oneOf [Section.featured, Section.free, Section.new]⟩], listingSwitches⟩

/-- What the commands for rankings take. -/
def rankingGrammar : Grammar := ⟨[], [⟨"--limit", some .integer⟩]⟩

/-- What the command that rates a book takes. -/
def rateGrammar : Grammar :=
  ⟨ratingSlots ++ Criterion.all.map (fun c => ⟨c.name, .integer⟩), [⟨"--review", some .text⟩]⟩

/-! ## Making commands -/

/-- What was given, by name; none for a slot that was left empty. -/
abbrev Values : Type := Association (Option String)

/-- A value, if it was given. -/
def text? (values : Values) (name : String) : Option String := (values.find? name).join

/-- A value as a text. -/
def text (values : Values) (name : String) : String := (text? values name).getD ""

/-- A value as an integer. -/
def integer? (values : Values) (name : String) : Option Int :=
  (text? values name).bind Number.readInteger?

/-- The layout that was asked for. -/
def layout (values : Values) : Listing.Layout :=
  ((text? values "--format").bind Listing.Layout.ofName?).getD .table

/-- Whether concurrent requests were asked for. -/
def usesAsync (values : Values) : Bool := (text? values "--async").isSome

/-- The limit of a ranking. -/
def limit (values : Values) : Int := (integer? values "--limit").getD defaultLimit

/-- The rating that was given. -/
def draft (values : Values) : Draft where
  username := .ofText? (text? values "username")
  isbn := .ofText? (text? values "isbn")
  scores := Scores.ofFn fun c => .ofInt? (integer? values c.name)
  review := .ofText? (text? values "--review")
  average := .null
  createdAt := none

/-- The commands by their names: what they take and what they make of it. -/
def all : Association (Grammar × (Values → Command)) :=
  [("search", searchGrammar, fun vs => .search (text vs "query") (layout vs) (usesAsync vs)),
   ("collection", collectionGrammar,
     fun vs => .collection (text vs "section") (layout vs) (usesAsync vs)),
   ("stats", ⟨[⟨"isbn", .text⟩], []⟩, fun vs => .stats (text vs "isbn")),
   ("top", rankingGrammar, fun vs => .top (limit vs)),
   ("most-reviewed", rankingGrammar, fun vs => .mostReviewed (limit vs)),
   ("summary", ⟨[], []⟩, fun _ => .summary),
   ("rate", rateGrammar, fun vs => .rate (draft vs)),
   ("unrate", ⟨ratingSlots, []⟩, fun vs => .unrate (text? vs "username") (text? vs "isbn"))]

/-- The names of the commands, for those who ask. -/
def usage : String := "Commands: " ++ String.intercalate ", " all.names

/-- The command in a list of arguments, after others that nothing takes if `hasExtras`. -/
def parseAfter (hasExtras : Bool) : List String → Except Refusal Command
  | [] => .error (if hasExtras then .misuse else .nothing)
  | arg :: rest => do
    if arg = "--" then .error .misuse
    else
      match ← Grammar.token ⟨[], []⟩ arg with
      | .option .help attached => .error (helpRefusal attached)
      | .option _ _ => parseAfter true rest
      | .dashes => .error .misuse
      | .word name =>
        match all.find? name with
        | none => .error .misuse
        | some (grammar, make) =>
          let (values, leftOver) ← grammar.read rest
          if hasExtras || leftOver then .error .misuse else return make values

/-- The command in a list of arguments. -/
def parse (args : List String) : Except Refusal Command := parseAfter false args

end Command

end Bookfinder.CommandLine
