import Manuscript.Proofs.Layout.Table
import Manuscript.Proofs.Render.Grid
import Manuscript.Proofs.Render.Leaves

/-!
# The cells of a table

Source rows may differ in length, and a table comes into being by asking for one place after
another. Nothing is moved, dropped or made up on the way (`table_keeps_places`): each source row has
its row, each source cell its cell, and a cell holds the runs of its source cell and no others.
Cells of the header are bold throughout, and those of the other rows where they are strong
(`ShowsCell`).
-/

namespace Manuscript.Render

open Layout

/-- A cell shows a source cell: the runs of its content, which are bold in the header, and elsewhere
    bold beneath strong emphasis alone. -/
structure ShowsCell (o : DocxOptions) (inHeader : Bool) (cell : Node) (p : Paragraph) : Prop where
  eq_runs : p = { runs := runs o (if inHeader then .boldface else .plain) cell.children }
  header : inHeader = true → ∀ r ∈ p.runs, r.format.bold = true
  body : inHeader = false →
    List.Forall₂ (fun l r => r.format.bold = true ↔ ∃ n ∈ l.above, n.kind = .strong)
      (leavesList o [] cell.children) p.runs

/-- Inlines in bold are bold throughout. -/
theorem bold_of_mem_runs {o : DocxOptions} {ns : List Node} {r : Run}
    (h : r ∈ runs o .boldface ns) : r.format.bold = true := by
  have hruns : runs o .boldface ns = (leavesList o [] ns).map (Leaf.run o .boldface) :=
    inlines_eq_map_leaves o .boldface [] ns
  rw [hruns] at h
  obtain ⟨l, -, rfl⟩ := List.mem_map.1 h
  exact (l.gives_run o .boldface).bold.2 (.inl rfl)

theorem showsCell_sourceCell (o : DocxOptions) (inHeader : Bool) (cell : Node) :
    ShowsCell o inHeader cell
      (sourceCell o (if inHeader then .boldface else .plain) cell) where
  eq_runs := rfl
  header := by
    rintro rfl r hr
    exact bold_of_mem_runs hr
  body := by
    rintro rfl
    refine (forall₂_gives_runs o .plain cell.children).imp fun l r hl => ?_
    rw [hl.bold]
    simp [Format.plain]

/-- The source row at a place has the format of the header if it is the first one of a table with a
    header. -/
theorem getElem?_sourceRows (header : Option Node) (rows : List Node) (i : Nat) :
    (sourceRows header rows)[i]? = (header.toList ++ rows)[i]?.map fun row =>
      (row, if header.isSome && i == 0 then .boldface else .plain) := by
  cases header with
  | none => simp [sourceRows]
  | some row => cases i <;> simp [sourceRows]

theorem length_sourceRows (header : Option Node) (rows : List Node) :
    (sourceRows header rows).length = (header.toList ++ rows).length := by
  simp [sourceRows]

/-- The lengths of the rows of a table are those of its source rows. -/
theorem map_length_rows (o : DocxOptions) (header : Option Node) (rows : List Node) :
    (table o header rows).rows.map (·.cells.length) =
      (header.toList ++ rows).map (·.children.length) := by
  rw [table_eq, List.map_map]
  cases header <;> simp [sourceRows, sourceRow, Function.comp_def]

/-- A table has one row for each source row, the header first, and a row one cell for each source
    cell, in its place; the cell shows the source cell. It has a row of header if there is a header,
    as many columns as its longest source row has cells, and the width that is asked for. -/
theorem table_keeps_places (o : DocxOptions) (header : Option Node) (rows : List Node) :
    (table o header rows).rows.length = (header.toList ++ rows).length ∧
    (∀ i row, (header.toList ++ rows)[i]? = some row →
      ∃ cells, (table o header rows).rows[i]? = some ⟨cells⟩ ∧
        List.Forall₂ (ShowsCell o (header.isSome && i == 0)) row.children cells) ∧
    (table o header rows).headerRows = (if header.isSome then 1 else 0) ∧
    (∀ row ∈ header.toList ++ rows, row.children.length ≤ (table o header rows).columnCount) ∧
    ((table o header rows).columnCount = 0 ∨
      ∃ row ∈ header.toList ++ rows, row.children.length = (table o header rows).columnCount) ∧
    (table o header rows).width = o.tableWidth := by
  have hlengths := map_length_rows o header rows
  refine ⟨?_, fun i row hrow => ?_, ?_, fun row hrow => ?_, ?_, ?_⟩
  · rw [table_eq, List.length_map, length_sourceRows]
  · refine ⟨row.children.map
      (sourceCell o (if header.isSome && i == 0 then .boldface else .plain)), ?_, ?_⟩
    · rw [table_eq, List.getElem?_map, getElem?_sourceRows, hrow]
      rfl
    · rw [List.forall₂_map_right_iff, List.forall₂_same]
      exact fun cell _ => showsCell_sourceCell o _ cell
  · rw [table_eq]
  · rw [Table.columnCount, hlengths]
    exact (le_foldl_max _ 0).2 _ (List.mem_map_of_mem hrow)
  · rw [Table.columnCount, hlengths]
    exact (foldl_max_mem _ 0).imp_right List.mem_map.1
  · rw [table_eq]

/-- A header of one cell over a row of two, of which the second is strong in part. -/
theorem table_keeps_places_ragged :
    let head := Node.tableRow [.tableCell [.text "a"]]
    let row := Node.tableRow [.tableCell [.text "b"], .tableCell [.strong [.text "c"], .text "d"]]
    ((some head).toList ++ [row])[1]? = some row ∧
    ∃ cells, (table {} (some head) [row]).rows[1]? = some ⟨cells⟩ ∧
      List.Forall₂ (ShowsCell {} false) row.children cells := by
  intro head row
  exact ⟨rfl, (table_keeps_places {} (some head) [row]).2.1 1 row rfl⟩

end Manuscript.Render
