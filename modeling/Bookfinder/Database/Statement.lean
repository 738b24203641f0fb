/-!
# Statements

The statements that the database executes. Parameters stand in the places of `%s`.
-/

namespace Bookfinder.Statement

/-- The columns of a rating. -/
def columns : String :=
  "username, isbn, style, content, pleasantness, originality, edition, review, average, created_at"

/-- A column for a score. -/
def scoreColumn (name : String) : String :=
  name ++ " SMALLINT NOT NULL CHECK (" ++ name ++ " BETWEEN 1 AND 5), "

/-- Creates the table of ratings. -/
def createTable : String :=
  "CREATE TABLE IF NOT EXISTS ratings ( id SERIAL PRIMARY KEY, username VARCHAR(255) NOT NULL, " ++
    "isbn VARCHAR(32) NOT NULL, " ++ scoreColumn "style" ++ scoreColumn "content" ++
    scoreColumn "pleasantness" ++ scoreColumn "originality" ++ scoreColumn "edition" ++
    "average NUMERIC(3, 2) NOT NULL, review TEXT, created_at TIMESTAMP DEFAULT CURRENT_TIMESTAMP, " ++
    "UNIQUE (username, isbn) )"

/-- Creates the index by book. -/
def createIndex : String := "CREATE INDEX IF NOT EXISTS idx_ratings_isbn ON ratings (isbn)"

/-- Selects the ratings with a condition, the newest first. -/
def select (condition : String) : String :=
  "SELECT " ++ columns ++ " FROM ratings " ++
    (if condition.isEmpty then "" else "WHERE " ++ condition ++ " ") ++ "ORDER BY created_at DESC"

/-- The condition on a rating of a reader for a book. -/
def ofReaderAndBook : String := "username = %s AND isbn = %s"

/-- Keeps a rating, in place of the one of the same reader for the same book. -/
def save : String :=
  "INSERT INTO ratings ( " ++ columns ++
    " ) VALUES (%s, %s, %s, %s, %s, %s, %s, %s, %s, CURRENT_TIMESTAMP) " ++
    "ON CONFLICT (username, isbn) DO UPDATE SET style = EXCLUDED.style, " ++
    "content = EXCLUDED.content, pleasantness = EXCLUDED.pleasantness, " ++
    "originality = EXCLUDED.originality, edition = EXCLUDED.edition, review = EXCLUDED.review, " ++
    "average = EXCLUDED.average, created_at = CURRENT_TIMESTAMP RETURNING " ++ columns

/-- Deletes a rating. -/
def delete : String := "DELETE FROM ratings WHERE " ++ ofReaderAndBook

end Bookfinder.Statement
