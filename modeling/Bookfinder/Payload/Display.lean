import Bookfinder.Number.Notation
import Bookfinder.Payload.Basic
import Bookfinder.Text.Quoted

/-!
# Payloads in messages

`Payload.display` is the text that stands for a payload in a message or a table: a text as it
is, and anything else as `Payload.inspected` writes it, which quotes texts and shows lists and
records with their members.
-/

namespace Bookfinder.Payload

mutual

/-- A payload written so that its kind shows. -/
def inspected : Payload → String
  | .null => "None"
  | .bool b => if b then "True" else "False"
  | .int i => Number.writtenInt i
  | .real x => Number.writtenReal Number.plainTexts x
  | .text s => Text.quote s
  | .list items => "[" ++ ", ".intercalate (inspectedItems items) ++ "]"
  | .record fields => "\x7b" ++ ", ".intercalate (inspectedFields fields) ++ "\x7d"

/-- The members of a list, each written so that its kind shows. -/
def inspectedItems : List Payload → List String
  | [] => []
  | p :: ps => inspected p :: inspectedItems ps

/-- The fields of a record, name and value. -/
def inspectedFields : List (String × Payload) → List String
  | [] => []
  | (k, p) :: fs => (Text.quote k ++ ": " ++ inspected p) :: inspectedFields fs

end

/-- A payload as it stands in running text. -/
def display : Payload → String
  | .text s => s
  | p => inspected p

end Bookfinder.Payload
