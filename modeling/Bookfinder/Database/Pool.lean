import Bookfinder.Outcome
import Bookfinder.Rating.Basic

/-!
# Connection pools

A `Pool σ` is what the database makes use of: connections that are taken and given back, and
statements that are executed on the connection that was taken last. `Pool.lend` takes a
connection for the time of one operation and gives it back whatever comes of the operation. A
`Row` is a line of an answer, which `Rating.ofRow` reads as a rating.
-/

namespace Bookfinder

/-- A column of a row. -/
inductive Cell where
  | value (p : Payload)
  | time (t : Timestamp)
deriving DecidableEq

namespace Cell

/-- The value of a column; a time as it is written. -/
def payload : Cell → Payload
  | .value p => p
  | .time t => .text t.written

/-- The time of a column that has one. -/
def time? : Cell → Option Timestamp
  | .time t => some t
  | .value _ => none

end Cell

/-- A line of an answer. -/
abbrev Row : Type := List Cell

/-- The rating in a row of ten columns. -/
def Rating.ofRow : Row → Except Fault Rating
  | [username, isbn, style, content, pleasantness, originality, edition, review, average,
      createdAt] => do
    let average ←
      if average.payload = .null then pure Payload.null
      else Payload.real <$> average.payload.toReal
    let d : Draft :=
      { username := username.payload
        isbn := isbn.payload
        scores := ⟨style.payload, content.payload, pleasantness.payload, originality.payload,
          edition.payload⟩
        review := review.payload
        average
        createdAt := createdAt.time? }
    d.rating
  | _ => .error .malformed

/-- Connections to a database. -/
structure Pool (σ : Type) where
  /-- Opens the pool with a least and a largest number of connections to an address. -/
  openPool : Int → Int → String → Action σ Unit
  /-- Takes a connection. -/
  take : Action σ Unit
  /-- Opens a cursor on the connection. -/
  openCursor : Action σ Unit
  /-- Executes a statement, perhaps with parameters. -/
  execute : String → Option (List Payload) → Action σ Unit
  fetchAll : Action σ (List Row)
  fetchOne : Action σ (Option Row)
  /-- How many rows the last statement changed. -/
  rowCount : Action σ Int
  commit : Action σ Unit
  rollback : Action σ Unit
  /-- Gives the connection back. -/
  giveBack : Action σ Unit
  /-- Closes all connections. -/
  closeAll : Action σ Unit

namespace Pool

variable {σ α : Type}

/-- The least number of connections of a pool. -/
def minConnections : Int := 1

/-- The largest number of connections of a pool. -/
def maxConnections : Int := 10

/-- An operation on a connection, which is given back whatever comes of the operation. -/
def lend (pool : Pool σ) (operation : Action σ α) : Action σ α := do
  pool.take
  operation.always pool.giveBack

/-- An operation that is undone if the database fails in it; the fault goes on. -/
def undoing (pool : Pool σ) (operation : Action σ α) : Action σ α :=
  tryCatch operation fun f => do
    match f with
    | .external .database _ =>
      pool.rollback
      Action.note (.ratingNotSaved f)
      throw f
    | _ => throw f

end Pool

end Bookfinder
