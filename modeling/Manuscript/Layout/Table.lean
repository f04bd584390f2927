import Manuscript.Layout.Paragraph

/-!
# Tables

A table is a list of rows of cells, and a cell holds one paragraph. Rows and cells come into being
when they are asked for: asking for a place beyond the end fills the gap with empty ones. Places are
also counted from the end, by negative numbers; those never create anything, and there may be none
(`reach`).
-/

namespace Manuscript.Layout

/-- The list filled up so that there is a place `i`, and that place; counted from the end when `i`
    is negative, and then only if it is there. -/
def reach (blank : α) (xs : List α) (i : Int) : List α × Option Nat :=
  if 0 ≤ i then (xs ++ List.replicate (i.toNat + 1 - xs.length) blank, some i.toNat)
  else (xs, if i.natAbs ≤ xs.length then some (xs.length - i.natAbs) else none)

/-- A row of a table. -/
structure Row where
  cells : List Paragraph := []
  deriving DecidableEq, Repr, Inhabited

/-- A table of a laid out document. Rows may differ in length; the first `headerRows` of them form
    the header. -/
structure Table where
  rows : List Row := []
  /-- The width that is asked for, in twentieths of a point. -/
  width : Number := 9000
  headerRows : Int := 0
  deriving DecidableEq, Repr, Inhabited

namespace Row

/-- Changes the paragraph of the cell at a place, which is created if it is beyond the end. The row
    stays as it is, and the second component is false, when there is no such place. -/
def updateCell (r : Row) (column : Int) (f : Paragraph → Paragraph) : Row × Bool :=
  match reach {} r.cells column with
  | (cells, some j) => (⟨cells.modify j f⟩, true)
  | (_, none) => (r, false)

end Row

namespace Table

/-- Changes the row at a place, which is created if it is beyond the end. -/
def updateRow (t : Table) (row : Int) (f : Row → Row × Bool) : Table × Bool :=
  match reach {} t.rows row with
  | (rows, some i) =>
    match rows[i]? with
    | some r => ({ t with rows := rows.set i (f r).1 }, (f r).2)
    | none => (t, false)
  | (_, none) => (t, false)

/-- Creates the row at a place if it is beyond the end. -/
def touchRow (t : Table) (row : Int) : Table × Bool :=
  t.updateRow row fun r => (r, true)

/-- Changes the paragraph of the cell at a place. Row and cell are created if they are beyond the
    end; the row stays even if there is no place for the cell. -/
def updateCell (t : Table) (row column : Int) (f : Paragraph → Paragraph) : Table × Bool :=
  t.updateRow row fun r => r.updateCell column f

/-- Adds a run to the cell at a place. -/
def addRun (t : Table) (row column : Int) (r : Run) : Table × Bool :=
  t.updateCell row column fun p => p.addRun r

/-- The number of cells of the widest row. -/
def columnCount (t : Table) : Nat :=
  (t.rows.map fun r => r.cells.length).foldl max 0

/-- The row at a place, counted from the end when it is negative. -/
def row? (t : Table) (row : Int) : Option Row :=
  (reach {} t.rows row).2.bind fun i => t.rows[i]?

end Table

end Manuscript.Layout
