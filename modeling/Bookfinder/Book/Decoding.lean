import Bookfinder.Book.Basic
import Bookfinder.Payload.Conversion

/-!
# Decoding books

`Book.decode` reads one record of a catalogue's answer. A record with neither an ISBN nor a number
is no book, and neither is one whose fields have the wrong shape: `Book.ofPayload` leaves it out
with a notice. `Book.listOfPayload` reads a whole answer, a list of records or a record with such
a list; any other answer counts as a failed call. `Book.brief` is the record that is shown.
-/

namespace Bookfinder

namespace Outcome

variable {α β : Type}

/-- An outcome whose faults of a single bad record are answered by leaving the record out. -/
def orSkip (notice : Fault → Notice) (o : Outcome (Option α)) : Outcome (Option α) :=
  match o.result with
  | .ok _ => o
  | .error f => if f.isUnreadable then ⟨.ok none, o.notices ++ [notice f]⟩ else o

/-- The results of a computation for each member of a list, without the missing ones. -/
def collect (f : α → Outcome (Option β)) : List α → Outcome (List β)
  | [] => pure []
  | a :: as => do
    let b ← f a
    let bs ← collect f as
    return b.toList ++ bs

end Outcome

namespace Book

/-- The book in a record. The year is kept as a text, which shows the value as it came: an integer
with all its digits, since a body has none with more than `Number.maxIntegerDigits` of them. -/
def decode (p : Payload) : Except Fault (Option Book) := do
  let fields ← p.asRecord
  let get := Payload.get fields
  let isbn ← if (get "isbn").isPresent then (get "isbn").asText.map Text.trim else pure ""
  let id ← (get "id").toInt?
  if isbn.isEmpty && id.isNone then return none
  let year := get "publishYear"
  let price ← (get "price").toReal?
  let pages ← (get "pages").toInt?
  return some
    { blank with
      title := get "title"
      author := get "author"
      isbn := if isbn.isEmpty then none else some isbn
      id
      description := get "description"
      publishYear := if year = .null then .null else .text year.display
      category := get "category"
      imageUrl := get "imageUrl"
      price
      isFree := (get "isFree").isPresent
      isNew := (get "isNew").isPresent
      publisher := get "publisher"
      language := get "language"
      pages }

/-- The book in a record, or none with a notice if the record cannot be read. -/
def ofPayload (p : Payload) : Outcome (Option Book) :=
  Outcome.orSkip .unreadableBook (.ofExcept (decode p))

/-- The book at a place of a list. What is no record is left out in silence. -/
def ofItem (p : Payload) : Outcome (Option Book) :=
  match p with
  | .record _ => ofPayload p
  | _ => pure none

/-- The books of a list. -/
def ofItems (items : Payload) : Outcome (Option (List Book)) :=
  match items with
  | .list ps => some <$> Outcome.collect ofItem ps
  | other =>
    if other.isPresent then do
      Outcome.note (.unexpectedBooks other.kindName)
      return none
    else return some []

/-- The books of an answer; `none` if it has another shape. -/
def listOfPayload (body : Payload) : Outcome (Option (List Book)) :=
  match body with
  | .record fields => ofItems (Payload.get fields "books")
  | .null => return some []
  | .list ps => ofItems (.list ps)
  | other => do
    Outcome.note (.unexpectedCatalogue other.kindName)
    return none

/-- What is shown of a book. -/
def brief (b : Book) : Payload :=
  .record [("isbn", .ofText? b.isbn), ("id", .ofInt? b.id), ("title", b.title),
    ("author", b.author), ("publish_year", b.publishYear), ("category", b.category),
    ("average_rating", .ofReal? b.averageRating), ("review_count", .int b.reviewCount)]

end Book

end Bookfinder
