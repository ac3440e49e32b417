import TuningAdvisor.Text.Width
/-!
# Tables: `print_table`

Rows of cells in a frame with round corners. A column is as wide as its widest line; a cell with
several lines makes its row as high.
-/

namespace TuningAdvisor

namespace Table

def linesOf (cell : String) : List String := cell.splitOn "\n"

def cellWidth (cell : String) : Nat := ((linesOf cell).map textWidth).foldl max 0

def widths (columns : Nat) (rows : List (List String)) : List Nat :=
  (List.range columns).map fun i => (rows.map fun row => cellWidth (row.getD i "")).foldl max 0

/-- A line of a cell, filled up with blanks. -/
def padded (width : Nat) (line : String) : String :=
  " " ++ line ++ String.ofList (List.replicate (width - textWidth line) ' ') ++ " "

def renderRow (widths : List Nat) (row : List String) : List String :=
  let cells := row.map linesOf
  let height := (cells.map List.length).foldl max 1
  (List.range height).map fun i =>
    "│" ++ "│".intercalate (List.zipWith (fun w cell => padded w (cell.getD i "")) widths cells)
      ++ "│"

/-- A rule between the given ends. -/
def rule (left middle right : String) (widths : List Nat) : String :=
  left ++ middle.intercalate (widths.map fun w => String.ofList (List.replicate (w + 2) '─'))
    ++ right

def render (header : List String) (rows : List (List String)) : List String :=
  let ws := widths header.length (header :: rows)
  [rule "╭" "┬" "╮" ws] ++ renderRow ws header ++ [rule "├" "┼" "┤" ws]
    ++ rows.flatMap (renderRow ws) ++ [rule "╰" "┴" "╯" ws]

end Table

end TuningAdvisor
