import Manuscript.Render.Table

/-!
# The grid of a table

Laying source rows and cells one after another, each onto the place behind the last one, only ever
appends (`layCells_eq`, `layRows_eq`). So a table has the rows of its source and each row the cells
of its source, in their places (`table_eq`).
-/

namespace Manuscript

namespace Layout

theorem reach_length {α : Type} (blank : α) (xs : List α) :
    reach blank xs xs.length = (xs ++ [blank], some xs.length) := by
  simp [reach]

theorem reach_of_lt {α : Type} (blank : α) {xs : List α} {i : Nat} (h : i < xs.length) :
    reach blank xs i = (xs, some i) := by
  have hi : i + 1 - xs.length = 0 := by omega
  simp [reach, hi]

/-- Changing the cell behind the last one appends it. -/
theorem Row.updateCell_length (r : Row) (f : Paragraph → Paragraph) :
    (r.updateCell r.cells.length f).1 = ⟨r.cells ++ [f {}]⟩ := by
  rw [Row.updateCell, reach_length]
  simp [List.modify_eq_take_cons_drop]

/-- Changing the last row leaves the others as they are. -/
theorem Table.updateRow_last {t : Table} {rows : List Row} {r : Row} (h : t.rows = rows ++ [r])
    (f : Row → Row × Bool) :
    (t.updateRow rows.length f).1 = { t with rows := rows ++ [(f r).1] } := by
  have hlt : rows.length < (rows ++ [r]).length := by simp
  rw [Table.updateRow, h, reach_of_lt {} hlt]
  simp

/-- Touching the row behind the last one appends it. -/
theorem Table.touchRow_length (t : Table) :
    (t.touchRow t.rows.length).1 = { t with rows := t.rows ++ [{}] } := by
  rw [Table.touchRow, Table.updateRow, reach_length]
  simp

end Layout

namespace Render

open Layout

theorem mem_of_mem_sourceRows {header : Option Node} {rows : List Node} {row : Node × Format}
    (h : row ∈ sourceRows header rows) : row.1 ∈ header.toList ++ rows := by
  rcases List.mem_append.1 h with h | h
  · obtain ⟨n, hn, rfl⟩ := List.mem_map.1 h
    exact List.mem_append_left _ hn
  · obtain ⟨n, hn, rfl⟩ := List.mem_map.1 h
    exact List.mem_append_right _ hn

/-- The cell of a source cell. -/
def sourceCell (o : DocxOptions) (f : Format) (cell : Node) : Paragraph :=
  { runs := runs o f cell.children }

/-- The row of a source row with the format of its cells. -/
def sourceRow (o : DocxOptions) (row : Node × Format) : Row :=
  ⟨row.1.children.map (sourceCell o row.2)⟩

/-- Cells that are laid from the end of the last row on are appended to it. -/
theorem layCells_eq (o : DocxOptions) (f : Format) {t : Table} {rows : List Row} {r : Row}
    (h : t.rows = rows ++ [r]) (cells : List Node) :
    layCells o f rows.length r.cells.length cells t =
      { t with rows := rows ++ [⟨r.cells ++ cells.map (sourceCell o f)⟩] } := by
  induction cells generalizing t r with
  | nil => simp [layCells, ← h]
  | cons cell rest ih =>
    have hcell : (({} : Paragraph).extend (runs o f cell.children)) = sourceCell o f cell := rfl
    have hlen : r.cells.length + 1 = (r.cells ++ [sourceCell o f cell]).length := by simp
    rw [layCells, Table.updateCell, Table.updateRow_last h, Row.updateCell_length, hcell, hlen,
      ih rfl]
    simp

/-- Rows that are laid from the end of a table on are appended to it. -/
theorem layRows_eq (o : DocxOptions) (t : Table) (rows : List (Node × Format)) :
    layRows o t.rows.length rows t = { t with rows := t.rows ++ rows.map (sourceRow o) } := by
  induction rows generalizing t with
  | nil => simp [layRows]
  | cons row rest ih =>
    have hlen : t.rows.length + 1 = (t.rows ++ [sourceRow o row]).length := by simp
    have hcells :
        layCells o row.2 t.rows.length 0 row.1.children { t with rows := t.rows ++ [{}] } =
          { t with rows := t.rows ++ [sourceRow o row] } :=
      layCells_eq o row.2 (t := { t with rows := t.rows ++ [{}] }) (r := {}) rfl row.1.children
    rw [layRows, Table.touchRow_length, hcells, hlen]
    refine (ih { t with rows := t.rows ++ [sourceRow o row] }).trans ?_
    simp

theorem table_eq (o : DocxOptions) (header : Option Node) (rows : List Node) :
    table o header rows =
      { rows := (sourceRows header rows).map (sourceRow o)
        width := o.tableWidth
        headerRows := if header.isSome then 1 else 0 } :=
  layRows_eq o { width := o.tableWidth, headerRows := if header.isSome then 1 else 0 } _

end Render

end Manuscript
