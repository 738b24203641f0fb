import Bookfinder.Listing

/-!
# Listings on a terminal

`Listing.written` is a listing as plain text. The columns of a table are as wide as their widest
cell; a grid has lines around all cells, a simple table one line under its headers.
-/

namespace Bookfinder

namespace Table

/-- The text of a cell; what is missing leaves it blank. -/
def cellText : Payload → String
  | .null => ""
  | p => p.display

/-- The headers and the cells of a table as texts, row by row. -/
def texts (t : Table) : List (List String) := t.headers :: t.rows.map (·.map cellText)

/-- The width of a column. -/
def width (t : Table) (column : Nat) : Nat :=
  (t.texts.map fun row => ((row[column]?).getD "").length).foldl max 0

/-- The widths of the columns. -/
def widths (t : Table) : List Nat := (List.range t.headers.length).map t.width

/-- A text filled up with blanks. -/
def padded (width : Nat) (s : String) : String :=
  s ++ String.ofList (List.replicate (width - s.length) ' ')

/-- A line of a grid, drawn with `mark`. -/
def gridRule (widths : List Nat) (mark : Char) : String :=
  "+" ++ String.join (widths.map fun w => String.ofList (List.replicate (w + 2) mark) ++ "+")

/-- A row of a grid. -/
def gridRow (widths : List Nat) (cells : List String) : String :=
  "|" ++ String.join (List.zipWith (fun w c => " " ++ padded w c ++ " |") widths cells)

/-- A row of a simple table. -/
def simpleRow (widths : List Nat) (cells : List String) : String :=
  String.intercalate "  " (List.zipWith padded widths cells)

/-- The lines of a table. -/
def lines (t : Table) : List String :=
  let widths := t.widths
  match t.frame with
  | .grid =>
    [gridRule widths '-', gridRow widths t.headers, gridRule widths '='] ++
      t.rows.flatMap fun row => [gridRow widths (row.map cellText), gridRule widths '-']
  | .simple =>
    [simpleRow widths t.headers,
      simpleRow widths (widths.map fun w => String.ofList (List.replicate w '-'))] ++
      t.rows.map fun row => simpleRow widths (row.map cellText)

/-- A table as plain text. -/
def written (t : Table) : String := String.intercalate "\n" t.lines

end Table

/-- A piece as plain text. -/
def Piece.written : Piece → String
  | .text s => s
  | .table t => t.written

/-- A listing as plain text. -/
def Listing.written (l : Listing) : String := String.join (l.map Piece.written)

end Bookfinder
