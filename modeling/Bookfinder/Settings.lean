import Bookfinder.Fault
import Bookfinder.Number.Numeral

/-!
# Settings

What the program can be told by its environment: where the catalogue and the database are, how
long and how often to try, how many ratings a book needs to be ranked. `Settings.ofEnvironment`
reads the variables; a number that cannot be read is a fault.
-/

namespace Bookfinder

/-- The settings of the program. -/
structure Settings where
  catalogueAddress : String
  databaseHost : String
  databasePort : String
  databaseName : String
  databaseUser : String
  databasePassword : String
  /-- Seconds to wait for an answer. -/
  timeout : Int
  maxRetries : Int
  maxConcurrent : Int
  /-- How many ratings a book needs to be ranked. -/
  leastRatings : Int
  logLevel : String
deriving DecidableEq, Repr

namespace Settings

/-- The address of a catalogue on this machine. -/
def localCatalogue : String := "http://localhost:8080/api"

/-- The settings of an empty environment. -/
def default : Settings where
  catalogueAddress := localCatalogue
  databaseHost := "localhost"
  databasePort := "5432"
  databaseName := "booksdb"
  databaseUser := "postgres"
  databasePassword := ""
  timeout := 10
  maxRetries := 3
  maxConcurrent := 5
  leastRatings := 2
  logLevel := "INFO"

/-- The variables of the environment that are read. -/
def variableNames : List String :=
  ["CATALOG_BASE_URL", "DB_HOST", "DB_PORT", "DB_NAME", "DB_USER", "DB_PASSWORD",
   "DEFAULT_TIMEOUT", "DEFAULT_MAX_RETRIES", "MAX_CONCURRENT_REQUESTS",
   "MIN_RATINGS_FOR_RANKING", "LOG_LEVEL"]

/-- The number in a variable, or the usual one if the variable is not set. -/
def number (text : Option String) (usual : Int) : Except Fault Int :=
  match text with
  | none => .ok usual
  | some s => (Number.readInteger? s).elim (.error .malformed) .ok

/-- The settings of an environment, given by its variables. -/
def ofEnvironment (get : String → Option String) : Except Fault Settings := do
  let timeout ← number (get "DEFAULT_TIMEOUT") default.timeout
  let maxRetries ← number (get "DEFAULT_MAX_RETRIES") default.maxRetries
  let maxConcurrent ← number (get "MAX_CONCURRENT_REQUESTS") default.maxConcurrent
  let leastRatings ← number (get "MIN_RATINGS_FOR_RANKING") default.leastRatings
  return {
    catalogueAddress := (get "CATALOG_BASE_URL").getD default.catalogueAddress
    databaseHost := (get "DB_HOST").getD default.databaseHost
    databasePort := (get "DB_PORT").getD default.databasePort
    databaseName := (get "DB_NAME").getD default.databaseName
    databaseUser := (get "DB_USER").getD default.databaseUser
    databasePassword := (get "DB_PASSWORD").getD default.databasePassword
    timeout, maxRetries, maxConcurrent, leastRatings
    logLevel := (get "LOG_LEVEL").getD default.logLevel }

/-- The address of the database. -/
def databaseAddress (s : Settings) : String :=
  "postgresql://" ++ s.databaseUser ++ ":" ++ s.databasePassword ++ "@" ++ s.databaseHost ++ ":" ++
    s.databasePort ++ "/" ++ s.databaseName

end Settings

end Bookfinder
