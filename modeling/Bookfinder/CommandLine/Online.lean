import Bookfinder.CommandLine.Program
import Bookfinder.Database.Store

/-!
# The program with its services

`Backend.online` carries commands out with a database that is reached through a pool of connections.
The pool is opened for each command and its tables are made where they are missing.
-/

namespace Bookfinder.CommandLine

/-- The program with ratings in the database behind a pool. -/
def Backend.online {σ : Type} (pool : Pool σ) (catalogue : Bool → Catalogue σ)
    (closeCatalogue : Bool → Action σ Unit) (now : Action σ Timestamp) : Backend σ where
  openDatabase := pool.openPool Pool.minConnections Pool.maxConnections
  prepareDatabase := pool.prepare
  closeDatabase := pool.closeAll
  ratings := pool.store
  catalogue
  closeCatalogue
  now

end Bookfinder.CommandLine
