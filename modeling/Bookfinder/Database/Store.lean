import Bookfinder.Database.Pool
import Bookfinder.Database.Statement
import Bookfinder.Rating.Store

/-!
# The database of ratings

`Pool.store` is the rating store over a pool of connections. Every operation takes a connection
and gives it back. Names are brought to their normal form before they go to the database; a
change is committed before its result is read.
-/

namespace Bookfinder.Pool

variable {σ : Type}

/-- Creates the table and its index where they are missing. -/
def prepare (pool : Pool σ) : Action σ Unit :=
  pool.lend do
    pool.openCursor
    pool.execute Statement.createTable none
    pool.execute Statement.createIndex none
    pool.commit

/-- The ratings with a condition. -/
def fetch (pool : Pool σ) (condition : String) (params : List Payload) :
    Action σ (List Rating) :=
  pool.lend do
    pool.openCursor
    pool.execute (Statement.select condition) (some params)
    (← pool.fetchAll).mapM fun row => Action.lift (.ofExcept (Rating.ofRow row))

/-- What goes to the database to keep a rating. -/
def saveParams (r : Rating) : List Payload :=
  [.text r.username, .text r.isbn] ++ r.scores.toList ++ [.ofText? r.review, r.average]

/-- The rating in the row that came back; no row is a fault. -/
def savedRating : Option Row → Except Fault Rating
  | some row => Rating.ofRow row
  | none => .error .wrongKind

/-- Keeps a rating; a change that the database refuses is undone and reported. -/
def save (pool : Pool σ) (r : Rating) : Action σ Rating :=
  pool.lend <| pool.undoing do
    pool.openCursor
    pool.execute Statement.save (some (saveParams r))
    let row ← pool.fetchOne
    pool.commit
    savedRating row

/-- Forgets a rating and tells whether there was one. -/
def remove (pool : Pool σ) (username isbn : Payload) : Action σ Bool :=
  pool.lend do
    pool.openCursor
    let username := normalUsername (← username.asText)
    let isbn := Text.trim (← isbn.asText)
    pool.execute Statement.delete (some [.text username, .text isbn])
    let removed ← pool.rowCount
    pool.commit
    return decide (0 < removed)

/-- The rating store over a pool. -/
def store (pool : Pool σ) : RatingStore σ where
  get username isbn := do
    let username := normalUsername (← username.asText)
    let isbn := Text.trim (← isbn.asText)
    return (← pool.fetch Statement.ofReaderAndBook [.text username, .text isbn]).head?
  save := pool.save
  remove := pool.remove
  ratingsFor isbn := do
    pool.fetch "isbn = %s" [.text (Text.trim (← isbn.asText))]
  ratingsForBooks isbns := do
    let isbns ← isbns.mapM fun p => (p.asText : Action σ String)
    let wanted := ((isbns.map Text.trim).eraseDups).mergeSort fun a b => decide (a ≤ b)
    if wanted.isEmpty then return []
    return RatingsByBook.ofList (← pool.fetch "isbn = ANY(%s)" [.list (wanted.map .text)])
  userRatings username := do
    pool.fetch "username = %s" [.text (normalUsername (← username.asText))]
  allRatings := pool.fetch "" []

end Bookfinder.Pool
