import Bookfinder.Book.Basic
import Bookfinder.Outcome

/-!
# Calls to the catalogue

A `Call` is one of the questions that the catalogue answers with a list of books; `Call.path` and
`Call.params` say how it is asked over HTTP. A `Catalogue` answers calls; a call that failed has
no answer, which is not the same as an empty list.
-/

namespace Bookfinder

/-- A question to the catalogue. -/
inductive Call where
  | allBooks
  | search (term : String)
  | searchTitle (title : String)
  | searchAuthor (author : String)
  | searchAuthorYear (author : String) (year : Option Int)
  | category (name : String)
  | featured
  | free
  | newReleases
  | topRated
  | mostReviewed
deriving DecidableEq, Repr

namespace Call

/-- The path of a call below the address of the catalogue. -/
def path : Call → String
  | .allBooks => "/books"
  | .search _ => "/books/search"
  | .searchTitle _ => "/books/search/title"
  | .searchAuthor _ => "/books/search/author"
  | .searchAuthorYear .. => "/books/search/author-year"
  | .category _ => "/books/category"
  | .featured => "/books/featured"
  | .free => "/books/free"
  | .newReleases => "/books/new-releases"
  | .topRated => "/books/top-rated"
  | .mostReviewed => "/books/most-reviewed"

/-- The parameters of a call; none for the calls that take nothing. -/
def params : Call → Option (Association Payload)
  | .search t | .searchTitle t | .searchAuthor t => some [("q", .text t)]
  | .searchAuthorYear author year =>
    some (("author", .text author) :: (year.map fun y => ("year", .int y)).toList)
  | .category name => some [("name", .text name)]
  | .allBooks | .featured | .free | .newReleases | .topRated | .mostReviewed => none

/-- The year of a call, if it has one, as a range. -/
def years : Call → YearRange
  | .searchAuthorYear _ year => ⟨year, year⟩
  | _ => .unbounded

end Call

/-- What answers calls; `none` if a call failed. -/
abbrev Catalogue (σ : Type) : Type := Call → Action σ (Option (List Book))

end Bookfinder
