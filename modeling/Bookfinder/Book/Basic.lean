import Bookfinder.Fault
import Bookfinder.Number.Numeral
import Bookfinder.Payload.Basic
import Bookfinder.Text.Blank

/-!
# Books

A `Book` is an entry of the catalogue. The fields that only pass through keep the payload that
the catalogue sent. Two entries are the same book if their identities agree: the ISBN, or the
number in the catalogue where no ISBN is known.
-/

namespace Bookfinder

/-- What tells one book from another. -/
inductive Identity where
  | isbn (s : String)
  | id (i : Option Int)
deriving DecidableEq, Repr

/-- An entry of the catalogue. -/
structure Book where
  title : Payload
  author : Payload
  isbn : Option String
  /-- The number of the entry in the catalogue. -/
  id : Option Int
  description : Payload
  publishYear : Payload
  category : Payload
  imageUrl : Payload
  price : Option Float
  isFree : Bool
  isNew : Bool
  publisher : Payload
  language : Payload
  pages : Option Int
  /-- The mean of the ratings, once they are looked up. -/
  averageRating : Option Float
  /-- The number of ratings behind the mean. -/
  reviewCount : Int
deriving DecidableEq

namespace Book

/-- An entry of which nothing is known. -/
def blank : Book where
  title := .null
  author := .null
  isbn := none
  id := none
  description := .null
  publishYear := .null
  category := .null
  imageUrl := .null
  price := none
  isFree := false
  isNew := false
  publisher := .null
  language := .null
  pages := none
  averageRating := none
  reviewCount := 0

instance : Inhabited Book := ⟨blank⟩

/-- The ISBN, if it is known and not empty. -/
def knownIsbn? (b : Book) : Option String := b.isbn.filter (!·.isEmpty)

/-- The identity of a book. -/
def identity (b : Book) : Identity :=
  match b.knownIsbn? with
  | some s => .isbn s
  | none => .id b.id

/-- Whether two entries are the same book. -/
def same (a b : Book) : Bool := a.identity == b.identity

/-- The year of publication; `none` if it is missing or no numeral. -/
def year (b : Book) : Except Fault (Option Int) :=
  if b.publishYear.isPresent then
    match b.publishYear with
    | .text s => .ok (Number.readInteger? (Text.trim s))
    | _ => .error .notText
  else .ok none

/-- The author to show. -/
def shownAuthor (b : Book) : Payload :=
  if b.author.isPresent then b.author else .text "Unknown"

end Book

end Bookfinder
