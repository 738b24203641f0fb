import Bookfinder.Book.Selection
import Bookfinder.Catalogue.Call

/-!
# Shelves

A `Shelf` is a catalogue of books at hand, which never fails and answers each question with just
the books that it asks for, in their order. It has no opinion of its own: the lists of
recommended, best rated and most reviewed books hold all of them.
-/

namespace Bookfinder

/-- Books at hand. -/
structure Shelf where
  books : List Book
deriving DecidableEq

namespace Shelf

/-- The books of an author that appeared in a year, if one is given. -/
def byAuthorYear (s : Shelf) (author : String) (year : Option Int) : Except Fault (List Book) := do
  Selection.byYears ⟨year, year⟩ (← Selection.byAuthor author s.books)

/-- The books that a question asks for. -/
def answer (s : Shelf) : Call → Except Fault (List Book)
  | .allBooks | .featured | .topRated | .mostReviewed => .ok s.books
  | .search t => Selection.byText t s.books
  | .searchTitle t => Selection.byTitle t s.books
  | .searchAuthor t => Selection.byAuthor t s.books
  | .searchAuthorYear author year => s.byAuthorYear author year
  | .category name => .ok (s.books.filter fun b => b.category == .text name)
  | .free => .ok (s.books.filter (·.isFree))
  | .newReleases => .ok (s.books.filter (·.isNew))

/-- The catalogue that a shelf makes. -/
def catalogue {σ : Type} (s : Shelf) : Catalogue σ := fun call =>
  some <$> (s.answer call : Action σ (List Book))

end Shelf

end Bookfinder
