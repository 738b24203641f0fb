import Bookfinder.Book.Decoding
import Bookfinder.Payload.Json

/-!
# Listings

What is printed is a list of pieces: texts and tables. A table is kept as its cells, since how
wide its columns are is a matter of the terminal. `Listing.books` shows a list of books as a
table, as JSON or one on a line; long titles and authors are cut in the table.
-/

namespace Bookfinder

/-- The lines around the cells of a table. -/
inductive Frame where
  | grid
  | simple
deriving DecidableEq, Repr

/-- The name of a frame. -/
def Frame.name : Frame → String
  | .grid => "grid"
  | .simple => "simple"

/-- A table to be laid out. -/
structure Table where
  headers : List String
  rows : List (List Payload)
  frame : Frame
deriving DecidableEq

/-- A part of what is printed. -/
inductive Piece where
  | text (s : String)
  | table (t : Table)
deriving DecidableEq

/-- What is printed, in order. -/
abbrev Listing : Type := List Piece

namespace Listing

/-- One line. -/
def line (s : String) : Piece := .text (s ++ "\n")

/-- A table after an empty line, and the end of its last line. -/
def tableBlock (t : Table) : Listing := [.text "\n", .table t, .text "\n"]

/-- The form in which books are shown. -/
inductive Layout where
  | table
  | json
  | compact
deriving DecidableEq, Repr

/-- The layout of a name. -/
def Layout.ofName? (name : String) : Option Layout :=
  if name = "table" then some .table
  else if name = "json" then some .json
  else if name = "compact" then some .compact
  else none

/-- The most characters of a title in a table. -/
def titleWidth : Nat := 50

/-- The most characters of an author in a table. -/
def authorWidth : Nat := 30

/-- A cell of at most `width` characters, longer texts with dots at the end. A value that is no
text has a length if it has members, and cannot be cut. -/
def cut (width : Nat) (p : Payload) : Except Fault Payload :=
  match p with
  | .text s =>
    .ok (.text (if width < s.length then String.ofList (s.toList.take width) ++ "..." else s))
  | .list items => if width < items.length then .error .wrongKind else .ok p
  | .record fields => if width < fields.length then .error .wrongKind else .ok p
  | _ => if p.isPresent then .error .wrongKind else .ok p

/-- A payload, or another one if it is not present. -/
def orElse (p other : Payload) : Payload := if p.isPresent then p else other

/-- The mean and the number of the ratings of a book. -/
def ratingCell (b : Book) : String :=
  match b.averageRating with
  | some x =>
    Number.fixedPlaces 2 x ++ " (" ++ Number.writtenInt b.reviewCount ++ ")"
  | none => "-"

/-- The row of a book. -/
def bookRow (b : Book) : Except Fault (List Payload) := do
  let title ← cut titleWidth b.title
  let author ← cut authorWidth b.shownAuthor
  return [(b.knownIsbn?.map Payload.text).getD (.ofInt? b.id), title, author,
    orElse b.publishYear (.text "Unknown"), .text (ratingCell b)]

/-- The table of a list of books. -/
def bookTable (books : List Book) : Except Fault Table := do
  return { headers := ["ISBN", "Title", "Author", "Year", "Rating"],
           rows := ← books.mapM bookRow, frame := .grid }

/-- A book on a line, with its number. -/
def compactLine (b : Book) (position : Nat) : Piece :=
  line (Number.writtenInt position ++ ". " ++ b.title.display ++ " - " ++ b.shownAuthor.display)

/-- A list of books; nothing without a layout. -/
def books (layout : Option Layout) (bs : List Book) : Except Fault Listing :=
  match layout with
  | some .table => tableBlock <$> bookTable bs
  | some .json => .ok [line (Payload.list (bs.map Book.brief)).indentedJson]
  | some .compact => .ok (List.zipWith compactLine bs (List.range' 1 bs.length))
  | none => .ok []

end Listing

end Bookfinder
