import Placard.Text.Split
import Placard.Unicode.Width

/-! Rows of cells in a frame with rounded corners, where a cell may have several lines. -/

namespace Placard.Text.Grid

/-- The lines of a cell; there is always one. -/
def cellLines (cell : String) : List (List Char) :=
  pieces (· == '\n') cell.toList

/-- The columns that a cell takes. -/
def cellWidth (cell : String) : Nat :=
  ((cellLines cell).map Unicode.lineWidth).foldl max 0

/-- The widths that two rows need, column by column. -/
def widest : List Nat → List Nat → List Nat
  | a :: left, b :: right => max a b :: widest left right
  | [], right => right
  | left, [] => left

/-- The widths of all columns. -/
def widths (rows : List (List String)) : List Nat :=
  (rows.map (·.map cellWidth)).foldl widest []

/-- A character as often as is said. -/
private def run (c : Char) (count : Nat) : String := .ofList (List.replicate count c)

/-- A line of the frame, with its left end, its crossings and its right end. -/
def border (left cross right : String) (columns : List Nat) : String :=
  left ++ joinWith cross (columns.map fun width => run '─' (width + 2)) ++ right

/-- A line of a cell filled up to the width of its column. -/
def padded (width : Nat) (line : List Char) : String :=
  " " ++ .ofList line ++ run ' ' (width - Unicode.lineWidth line) ++ " "

/-- One line of a row; cells with fewer lines are blank there. -/
def rowLine (columns : List Nat) (cells : List (List (List Char))) (index : Nat) : String :=
  let parts := (columns.zip cells).map fun (width, lines) => padded width (lines[index]?.getD [])
  "│" ++ joinWith "│" parts ++ "│"

/-- The lines of a row, as many as its highest cell has. -/
def rowLines (columns : List Nat) (row : List String) : List String :=
  let cells := row.map cellLines
  let height := (cells.map List.length).foldl max 1
  (List.range height).map (rowLine columns cells)

/-- A framed grid with a line under its header. -/
def render (header : List String) (rows : List (List String)) : String :=
  let columns := widths (header :: rows)
  joinWith "\n" (
    [border "╭" "┬" "╮" columns] ++ rowLines columns header ++
    [border "├" "┼" "┤" columns] ++ rows.flatMap (rowLines columns) ++
    [border "╰" "┴" "╯" columns])

end Placard.Text.Grid
