import Bookfinder.Book.Decoding
import Bookfinder.CommandLine.Offline
import Bookfinder.Listing.Terminal
import Bookfinder.Payload.Reader
import Bookfinder.Rating.Record
import Std.Time.DateTime.Timestamp

/-!
# The command line

The program on files: the catalogue is the JSON file that `CATALOG_FILE` names, and the ratings
are kept in the one that `RATINGS_FILE` names. Listings go to the standard output and notices to
the standard error.
-/

namespace Bookfinder

open CommandLine

/-- The value in a JSON file; null if it cannot be read. -/
def readJson (path : String) : IO Payload := do
  try
    return (Payload.ofJson? (← IO.FS.readFile path)).getD .null
  catch _ => return .null

/-- The file that the environment names, or the usual one. -/
def fileNamed (name usual : String) : IO String := return (← IO.getEnv name).getD usual

/-- The clock, as universal time. -/
def readClock : IO Timestamp := do
  let seconds := (← Std.Time.Timestamp.now).toSecondsSinceUnixEpoch.val.toNat
  return Timestamp.ofParts ⟨1970, 1, 1⟩ (seconds * Timestamp.second) none

/-- Reports notices. -/
def report (notices : List Notice) : IO Unit :=
  notices.forM fun n => IO.eprintln (n.level.name ++ " - " ++ n.text)

/-- The settings of the environment. -/
def readSettings : IO (Except Fault Settings) := do
  let values ← Settings.variableNames.mapM fun name => return (name, ← IO.getEnv name)
  return Settings.ofEnvironment fun name => (values.lookup name).join

/-- Runs a command line on books and ratings; the ratings go back to their file if the command
changed them. -/
def runCommand (settings : Settings) (books : List Book) (ledger : Ledger) (ratingsFile : String)
    (args : List String) : IO (Except Fault Ending) := do
  let backend := Backend.offline ⟨books⟩ (← readClock)
  let (outcome, console) := (Program.run backend settings args).run ⟨[], ledger⟩
  IO.print console.printed.written
  report outcome.notices
  if console.outside ≠ ledger then
    IO.FS.writeFile ratingsFile (console.outside.record.indentedJson ++ "\n")
  return outcome.result

/-- Runs a command line on the files that the environment names. -/
def runOnFiles (args : List String) : IO (Except Fault Ending) := do
  let ratingsFile ← fileNamed "RATINGS_FILE" "ratings.json"
  let books := Book.listOfPayload (← readJson (← fileNamed "CATALOG_FILE" "catalog.json"))
  report books.notices
  match ← readSettings, books.result, Ledger.ofRecord (← readJson ratingsFile) with
  | .ok settings, .ok books, .ok ledger =>
    runCommand settings (books.getD []) ledger ratingsFile args
  | .error f, _, _ | _, .error f, _ | _, _, .error f => return .error f

/-- Runs a command line and gives the exit code of the program. -/
def runProgram (args : List String) : IO UInt32 := do
  match ← runOnFiles args with
  | .ok ending =>
    if ending matches .refused _ then IO.eprintln Command.usage
    return (ending.exitCode?.getD 0).toUInt32
  | .error f =>
    report [.commandFailed f]
    return 1

end Bookfinder

/-- The command line of the program. -/
def main (args : List String) : IO UInt32 := Bookfinder.runProgram args
