import Bookfinder.Catalogue.Shelf
import Bookfinder.CommandLine.Program
import Bookfinder.Rating.Ledger

/-!
# The program without services

`Backend.offline` carries commands out on a shelf of books, with a ledger in place of the
database. Nothing in it fails but what the books themselves make fail.
-/

namespace Bookfinder.CommandLine

/-- The program on a shelf of books, with ratings in a ledger, at one moment. -/
def Backend.offline (shelf : Shelf) (time : Timestamp) : Backend Ledger where
  openDatabase _ := pure ()
  prepareDatabase := pure ()
  closeDatabase := pure ()
  ratings := Ledger.store
  catalogue _ := shelf.catalogue
  closeCatalogue _ := pure ()
  now := pure time

end Bookfinder.CommandLine
