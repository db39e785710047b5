import Storyline.Text.Width

/-!
Tables in plain characters. Every column is as wide as its widest line, cells are set to the left,
and rules stand above, under the header, between the rows and below.
-/
namespace Storyline

structure Table where
  header : List String
  /-- Each row has a cell for each one of the header. -/
  rows : List (List String)

namespace Table

def padRight (width : Nat) (line : String) : String :=
  line ++ String.ofList (List.replicate (width - Text.width line) ' ')

def cellLines (cell : String) : List String := cell.splitOn "\n"

def cellWidth (cell : String) : Nat := ((cellLines cell).map Text.width).foldl max 0

def columnWidths (t : Table) : List Nat :=
  (t.header :: t.rows).foldl (fun widths row => List.zipWith max widths (row.map cellWidth))
    (t.header.map fun _ => 1)

def rule (edge : String) (widths : List Nat) : String :=
  edge ++ "+".intercalate (widths.map fun w => String.ofList (List.replicate (w + 2) '-')) ++ edge

def headerRule (widths : List Nat) : String :=
  "+" ++ String.ofList (List.replicate (widths.foldl (fun n w => n + w + 3) 0).pred '=') ++ "+"

/-- The line of a row at a height; a cell with fewer lines is blank there. -/
def rowLine (widths : List Nat) (row : List String) (height : Nat) : String :=
  let cells := List.zipWith (fun w cell => padRight w ((cellLines cell).getD height "")) widths row
  "| " ++ " | ".intercalate cells ++ " |"

def rowLines (widths : List Nat) (row : List String) : List String :=
  let height := (row.map fun cell => (cellLines cell).length).foldl max 0
  (List.range height).map (rowLine widths row)

def lines (t : Table) : List String :=
  let widths := t.columnWidths
  let body := (t.rows.map (rowLines widths)).intersperse [rule "|" widths]
  [rule "+" widths] ++ rowLines widths t.header ++ [headerRule widths] ++ body.flatten
    ++ [rule "+" widths]

end Table

end Storyline
