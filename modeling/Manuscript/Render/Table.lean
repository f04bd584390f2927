import Manuscript.Layout.Table
import Manuscript.Render.Inline

/-!
# Laying out tables

Rows may differ in length, and nothing is cut off: each source row is laid onto the row at its
place, each cell onto the cell at its place, and both are created as they are needed. Cells of the
header are bold.
-/

namespace Manuscript.Render

open Layout

/-- Lays source cells onto row `i`, from column `j` on. -/
def layCells (o : DocxOptions) (f : Format) (i j : Nat) : List Node → Table → Table
  | [], t => t
  | cell :: rest, t =>
    layCells o f i (j + 1) rest (t.updateCell i j fun p => p.extend (runs o f cell.children)).1

/-- Lays source rows onto the rows from `i` on, each under its format. -/
def layRows (o : DocxOptions) (i : Nat) : List (Node × Format) → Table → Table
  | [], t => t
  | (row, f) :: rest, t => layRows o (i + 1) rest (layCells o f i 0 row.children (t.touchRow i).1)

/-- The source rows of a table with the formats of their cells, the header first. -/
def sourceRows (header : Option Node) (rows : List Node) : List (Node × Format) :=
  (header.toList.map fun row => (row, .boldface)) ++ rows.map fun row => (row, .plain)

/-- The table of a header, if there is one, and of rows. -/
def table (o : DocxOptions) (header : Option Node) (rows : List Node) : Table :=
  layRows o 0 (sourceRows header rows)
    { width := o.tableWidth, headerRows := if header.isSome then 1 else 0 }

end Manuscript.Render
