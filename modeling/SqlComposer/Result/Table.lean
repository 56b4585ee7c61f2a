/-
  SqlComposer.Result.Table — rows drawn as a table, and rows as lines of JSON.

  The header is the columns of the first row. A cell is as many lines as its text has;
  every line stands at the left with a blank on either side, and a column is as wide as
  its widest line, one character at least. Rows may differ in length: cells that are
  missing are blank.
-/

import SqlComposer.Result.Row
import SqlComposer.Text.Columns

namespace SqlComposer

namespace Table

/-- The text of one cell, by lines. -/
abbrev Cell := List String

def cellOf (s : String) : Cell := (Chars.splitOn (· == '\n') s.toList).map String.ofList

/-! ## Widths -/

def cellWidth (c : Cell) : Nat := (c.map Text.width).foldl max 0

/-- The widest cell at each position, of rows that may differ in length. -/
def widest : List Nat → List Nat → List Nat
  | [], ws => ws
  | vs, [] => vs
  | v :: vs, w :: ws => max v w :: widest vs ws

def columnWidths (rows : List (List Cell)) : List Nat :=
  (rows.foldl (fun ws row => widest ws (row.map cellWidth)) []).map (max 1)

/-! ## Lines -/

/-- The characters of a horizontal line: its ends, its stroke, and its crossings. -/
structure Rule where
  left : String
  stroke : Char
  cross : String
  right : String

def top : Rule := ⟨"┌", '─', "┬", "┐"⟩

def belowHeader : Rule := ⟨"╞", '═', "╪", "╡"⟩

def between : Rule := ⟨"├", '╌', "┼", "┤"⟩

def bottom : Rule := ⟨"└", '─', "┴", "┘"⟩

def Rule.draw (r : Rule) (widths : List Nat) : String :=
  r.left ++ Text.join r.cross (widths.map fun w => String.ofList (List.replicate (w + 2) r.stroke)) ++ r.right

/-- A line of text filled up to a width. -/
def pad (w : Nat) (line : String) : String := line ++ String.ofList (List.replicate (w - Text.width line) ' ')

/-- The line at one height through all columns. -/
def drawLine (height : Nat) (row : List (Nat × Cell)) : String :=
  "│ " ++ Text.join " ┆ " (row.map fun (w, cell) => pad w (cell[height]?.getD "")) ++ " │"

/-- The cells of a row with the widths of their columns; missing cells are blank. -/
def align : List Nat → List Cell → List (Nat × Cell)
  | [], _ => []
  | w :: ws, [] => (w, [""]) :: align ws []
  | w :: ws, c :: cs => (w, c) :: align ws cs

/-- A row is as high as its highest cell. -/
def drawRow (widths : List Nat) (row : List Cell) : List String :=
  let cells := align widths row
  let height := (cells.map fun (_, c) => c.length).foldl max 0
  (List.range height).map fun n => drawLine n cells

/-- All lines of the table. -/
def draw (header : List Cell) (rows : List (List Cell)) : List String :=
  let widths := columnWidths (header :: rows)
  let bodies := rows.map (drawRow widths)
  [top.draw widths] ++ drawRow widths header ++ [belowHeader.draw widths] ++
    [between.draw widths].intercalate bodies ++ [bottom.draw widths]

end Table

namespace Row

/-- The cells of a row, with a word for NULL. -/
def tableCells (r : Row) : List Table.Cell := r.cells.map fun (_, v) => Table.cellOf (v.getD "NULL")

/-- The table of the rows, if there are any, and their number. -/
def report (rows : List Row) : List String :=
  let table := match rows with
    | [] => []
    | first :: _ => Table.draw (first.columns.map Table.cellOf) (rows.map tableCells)
  table ++ [s!"({rows.length} row(s))"]

/-- One line of JSON for each row. -/
def jsonLines (rows : List Row) : List String := rows.map json

end Row

end SqlComposer
