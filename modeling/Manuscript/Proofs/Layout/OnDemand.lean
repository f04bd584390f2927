import Manuscript.Proofs.Layout.Table
import Mathlib.Data.List.Basic
import Mathlib.Order.Nat

/-!
# Rows and cells on demand

Runs are added to a table at places that need not be there yet (`Table.add`). What a table looks like
is said by three views: how many rows it has, how many cells there are in a row, and what a cell
holds, where a row or a cell that is not there counts as an empty one (`Table.rowAt`, `Row.cellAt`).
Two tables that agree in these are the same (`Table.ext_of_rowAt`).

Adding a run lets the table reach its place and changes one cell (`Table.rowAt_updateRow`,
`Row.cellAt_updateCell`). So after a sequence of additions there are as many rows and cells as the
places demand, and each cell holds the runs that were added there, in order. In which order
different cells got theirs leaves no trace (`Table.addAll_congr`).
-/

namespace Manuscript.Layout

/-- How many places there must be for all of some indices to be among them: one more than the
    greatest of them, and none if there are no indices. -/
def extent (is : List Nat) : Nat :=
  (is.max?.map (· + 1)).getD 0

/-- An extent is the least number beyond all of some indices. -/
theorem extent_le_iff {is : List Nat} {n : Nat} : extent is ≤ n ↔ ∀ i ∈ is, i < n := by
  cases h : is.max? with
  | none => simp [extent, List.max?_eq_none_iff.1 h]
  | some k =>
    obtain ⟨hmem, hle⟩ := List.max?_eq_some_iff.1 h
    simp only [extent, h, Option.map_some, Option.getD_some]
    exact ⟨fun hk i hi => Nat.lt_of_le_of_lt (hle i hi) hk, fun hall => hall k hmem⟩

@[simp] theorem extent_nil : extent [] = 0 := rfl

@[simp] theorem extent_singleton (i : Nat) : extent [i] = i + 1 := rfl

/-- The extent of two lists of indices is the larger of theirs. -/
theorem extent_append (is js : List Nat) : extent (is ++ js) = max (extent is) (extent js) :=
  eq_of_forall_ge_iff fun n => by
    rw [Nat.max_le, extent_le_iff, extent_le_iff, extent_le_iff, List.forall_mem_append]

/-! ## Reaching a place -/

section Reach

variable {α : Type} (blank : α) (xs : List α) (i : Nat)

/-- The list filled up so that there is a place `i`. -/
def filled : List α :=
  xs ++ List.replicate (i + 1 - xs.length) blank

/-- At a natural number, a list is filled up as far as that and nothing else. -/
theorem reach_natCast : reach blank xs (i : Int) = (filled blank xs i, some i) := by
  simp [reach, filled]

/-- A list that is filled up is long enough, and not longer than it has to be. -/
theorem length_filled : (filled blank xs i).length = max xs.length (i + 1) := by
  rw [filled, List.length_append, List.length_replicate]
  omega

theorem lt_length_filled : i < (filled blank xs i).length := by
  rw [length_filled]
  omega

/-- Only blanks are filled in. -/
theorem getD_filled (k : Nat) : (filled blank xs i)[k]?.getD blank = xs[k]?.getD blank := by
  rw [filled, List.getElem?_append]
  split
  case isTrue => rfl
  case isFalse h =>
    rw [List.getElem?_eq_none (Nat.le_of_not_lt h), List.getElem?_replicate]
    split <;> rfl

/-- A list that is filled up has something at its index. -/
theorem getElem?_filled : (filled blank xs i)[i]? = some (xs[i]?.getD blank) := by
  have hi := lt_length_filled blank xs i
  rw [← getD_filled blank xs i i, List.getElem?_eq_getElem hi, Option.getD_some]

/-- In a list that is filled up, a change at that place leaves the others as they were. -/
theorem getD_set_filled (a : α) (k : Nat) :
    ((filled blank xs i).set i a)[k]?.getD blank = if k = i then a else xs[k]?.getD blank := by
  rw [List.getElem?_set]
  by_cases h : i = k
  · simp [h, lt_length_filled]
  · rw [if_neg h, getD_filled, if_neg (Ne.symm h)]

variable {blank} in
/-- Two lists of one length are the same if they hold the same at each place. -/
theorem ext_of_getD {xs ys : List α} (hlen : xs.length = ys.length)
    (h : ∀ k : Nat, xs[k]?.getD blank = ys[k]?.getD blank) : xs = ys := by
  refine List.ext_getElem hlen fun k hk hk' => ?_
  have := h k
  rwa [List.getElem?_eq_getElem hk, List.getElem?_eq_getElem hk'] at this

end Reach

namespace Paragraph

@[simp] theorem extend_nil (p : Paragraph) : p.extend [] = p := by
  simp [extend]

/-- Runs may be added to a paragraph in two steps. -/
theorem extend_append (p : Paragraph) (rs ss : List Run) :
    p.extend (rs ++ ss) = (p.extend rs).extend ss := by
  simp [extend]

end Paragraph

namespace Row

/-- The cell at a place, an empty one if there is none. -/
def cellAt (r : Row) (j : Nat) : Paragraph :=
  r.cells[j]?.getD {}

/-- A cell that is there is the cell at its place. -/
theorem cellAt_of_lt {r : Row} {j : Nat} (h : j < r.cells.length) : r.cellAt j = r.cells[j] := by
  rw [cellAt, List.getElem?_eq_getElem h, Option.getD_some]

/-- Rows of one length with the same cells are the same. -/
theorem ext_of_cellAt {r s : Row} (hlen : r.cells.length = s.cells.length)
    (h : ∀ j, r.cellAt j = s.cellAt j) : r = s := by
  cases r
  cases s
  exact congrArg Row.mk (ext_of_getD hlen h)

variable (r : Row) (j : Nat) (f : Paragraph → Paragraph)

/-- Changing a cell fills up the row as far as that cell. -/
theorem updateCell_natCast :
    r.updateCell j f = (⟨(filled {} r.cells j).set j (f (r.cellAt j))⟩, true) := by
  simp only [updateCell, reach_natCast, List.modify_eq_set_getElem?, getElem?_filled]
  rfl

/-- A row in which a cell is changed reaches that cell. -/
theorem length_updateCell : (r.updateCell j f).1.cells.length = max r.cells.length (j + 1) := by
  rw [updateCell_natCast, List.length_set, length_filled]

/-- Changing a cell changes no other. -/
theorem cellAt_updateCell (k : Nat) :
    (r.updateCell j f).1.cellAt k = if k = j then f (r.cellAt j) else r.cellAt k := by
  rw [updateCell_natCast]
  exact getD_set_filled _ _ _ _ _

end Row

namespace Table

/-- The row at a place, an empty one if there is none. -/
def rowAt (t : Table) (i : Nat) : Row :=
  t.rows[i]?.getD {}

theorem rowAt_of_lt {t : Table} {i : Nat} (h : i < t.rows.length) : t.rowAt i = t.rows[i] := by
  rw [rowAt, List.getElem?_eq_getElem h, Option.getD_some]

/-- Tables with the same rows, width and number of header rows are the same. -/
theorem ext_of_rowAt {t u : Table} (hwidth : t.width = u.width)
    (hheader : t.headerRows = u.headerRows) (hlen : t.rows.length = u.rows.length)
    (h : ∀ i, t.rowAt i = u.rowAt i) : t = u := by
  cases t
  cases u
  simp_all only [mk.injEq, and_self, and_true]
  exact ext_of_getD hlen h

section UpdateRow

variable (t : Table) (i : Nat) (f : Row → Row × Bool)

/-- Changing a row fills up the table as far as that row. -/
theorem updateRow_natCast :
    t.updateRow i f =
      ({ t with rows := (filled {} t.rows i).set i (f (t.rowAt i)).1 }, (f (t.rowAt i)).2) := by
  simp only [updateRow, reach_natCast, getElem?_filled]
  rfl

/-- A table in which a row is changed reaches that row. -/
theorem length_updateRow : (t.updateRow i f).1.rows.length = max t.rows.length (i + 1) := by
  rw [updateRow_natCast, List.length_set, length_filled]

/-- Changing a row changes no other. -/
theorem rowAt_updateRow (k : Nat) :
    (t.updateRow i f).1.rowAt k = if k = i then (f (t.rowAt i)).1 else t.rowAt k := by
  rw [updateRow_natCast]
  exact getD_set_filled _ _ _ _ _

end UpdateRow

end Table

/-! ## Additions -/

/-- A run with the place of a table that it is added at. -/
structure Addition where
  row : Nat
  column : Nat
  run : Run

namespace Addition

/-- The columns of the additions to a row. -/
def columnsOn (i : Nat) (as : List Addition) : List Nat :=
  (as.filter (i = ·.row)).map (·.column)

/-- The runs that are added to a cell, in order. -/
def runsAt (i j : Nat) (as : List Addition) : List Run :=
  (as.filter fun a => i = a.row ∧ j = a.column).map (·.run)

variable {as bs : List Addition}

/-- The columns used on a row are those of all additions in turn. -/
theorem columnsOn_append (i : Nat) (as bs : List Addition) :
    columnsOn i (as ++ bs) = columnsOn i as ++ columnsOn i bs := by
  simp [columnsOn]

theorem columnsOn_singleton (i : Nat) (a : Addition) :
    columnsOn i [a] = if i = a.row then [a.column] else [] := by
  by_cases h : i = a.row <;> simp [columnsOn, h]

/-- The runs added at a place are those of all additions in turn. -/
theorem runsAt_append (i j : Nat) (as bs : List Addition) :
    runsAt i j (as ++ bs) = runsAt i j as ++ runsAt i j bs := by
  simp [runsAt]

theorem runsAt_singleton (i j : Nat) (a : Addition) :
    runsAt i j [a] = if i = a.row ∧ j = a.column then [a.run] else [] := by
  by_cases h : i = a.row ∧ j = a.column <;> simp [runsAt, h]

/-- The places of additions are those of cells that runs are added to. -/
theorem forall_mem_iff_runsAt {P : Nat → Nat → Prop} :
    (∀ a ∈ as, P a.row a.column) ↔ ∀ i j, runsAt i j as ≠ [] → P i j := by
  simp only [runsAt, ne_eq, List.map_eq_nil_iff, List.filter_eq_nil_iff, decide_eq_true_eq,
    not_forall, not_not]
  constructor
  · rintro h i j ⟨a, ha, rfl, rfl⟩
    exact h a ha
  · intro h a ha
    exact h a.row a.column ⟨a, ha, rfl, rfl⟩

theorem extent_map_le_iff {f : Addition → Nat} {n : Nat} :
    extent (as.map f) ≤ n ↔ ∀ a ∈ as, f a < n := by
  rw [extent_le_iff, List.forall_mem_map]

/-- The columns used on a row are bounded if those of each addition on it are. -/
theorem extent_columnsOn_le_iff {i n : Nat} :
    extent (columnsOn i as) ≤ n ↔ ∀ a ∈ as, i = a.row → a.column < n := by
  simp [columnsOn, extent_map_le_iff]

end Addition

namespace Table

open Addition

/-- Adds a run at its place. -/
def add (t : Table) (a : Addition) : Table :=
  (t.addRun a.row a.column a.run).1

/-- Adds runs at their places, one after another. -/
def addAll (t : Table) (as : List Addition) : Table :=
  as.foldl add t

section Add

variable (t : Table) (a : Addition)

/-- An addition makes a table reach its row. -/
theorem length_add : (t.add a).rows.length = max t.rows.length (a.row + 1) := by
  rw [add, addRun, updateCell, length_updateRow]

/-- An addition changes its row only. -/
theorem rowAt_add (i : Nat) :
    (t.add a).rowAt i =
      if i = a.row then ((t.rowAt i).updateCell a.column (·.addRun a.run)).1 else t.rowAt i := by
  rw [add, addRun, updateCell, rowAt_updateRow]
  split
  case isTrue h => rw [h]
  case isFalse => rfl

/-- An addition makes its row reach its column, and no other row. -/
theorem length_rowAt_add (i : Nat) :
    ((t.add a).rowAt i).cells.length =
      max (t.rowAt i).cells.length (extent (columnsOn i [a])) := by
  rw [rowAt_add, columnsOn_singleton]
  split
  case isTrue => rw [Row.length_updateCell, extent_singleton]
  case isFalse => rw [extent_nil, Nat.max_zero]

/-- An addition puts its run after those at its place, and changes no other. -/
theorem cellAt_add (i j : Nat) :
    ((t.add a).rowAt i).cellAt j = ((t.rowAt i).cellAt j).extend (runsAt i j [a]) := by
  rw [rowAt_add, runsAt_singleton]
  by_cases hi : i = a.row
  · rw [if_pos hi, Row.cellAt_updateCell]
    by_cases hj : j = a.column
    · rw [if_pos hj, if_pos ⟨hi, hj⟩, hj]
      rfl
    · rw [if_neg hj, if_neg fun h => hj h.2, Paragraph.extend_nil]
  · rw [if_neg hi, if_neg fun h => hi h.1, Paragraph.extend_nil]

theorem width_add : (t.add a).width = t.width := by
  rw [add, addRun, updateCell, updateRow_natCast]

theorem headerRows_add : (t.add a).headerRows = t.headerRows := by
  rw [add, addRun, updateCell, updateRow_natCast]

end Add

/-- What a sequence of additions makes of a table: it has the rows and cells that it had and those
    that the places demand, and each cell holds what it held and what was added there, in order. -/
structure Becomes (t : Table) (as : List Addition) (u : Table) : Prop where
  width : u.width = t.width
  headerRows : u.headerRows = t.headerRows
  rows : u.rows.length = max t.rows.length (extent (as.map (·.row)))
  cells (i : Nat) :
    (u.rowAt i).cells.length = max (t.rowAt i).cells.length (extent (columnsOn i as))
  runs (i j : Nat) : (u.rowAt i).cellAt j = ((t.rowAt i).cellAt j).extend (runsAt i j as)

variable {t u v : Table} {as bs : List Addition}

theorem becomes_nil (t : Table) : t.Becomes [] t where
  width := rfl
  headerRows := rfl
  rows := (Nat.max_zero _).symm
  cells _ := (Nat.max_zero _).symm
  runs _ _ := (Paragraph.extend_nil _).symm

/-- One addition. -/
theorem becomes_add (t : Table) (a : Addition) : t.Becomes [a] (t.add a) where
  width := width_add t a
  headerRows := headerRows_add t a
  rows := length_add t a
  cells := length_rowAt_add t a
  runs := cellAt_add t a

/-- Additions in two steps are those of both. -/
theorem Becomes.trans (h : t.Becomes as u) (h' : u.Becomes bs v) : t.Becomes (as ++ bs) v where
  width := h'.width.trans h.width
  headerRows := h'.headerRows.trans h.headerRows
  rows := by rw [h'.rows, h.rows, List.map_append, extent_append, Nat.max_assoc]
  cells i := by rw [h'.cells, h.cells, columnsOn_append, extent_append, Nat.max_assoc]
  runs i j := by rw [h'.runs, h.runs, runsAt_append, Paragraph.extend_append]

/-- Additions one after another. -/
theorem becomes_addAll (t : Table) (as : List Addition) : t.Becomes as (t.addAll as) := by
  induction as generalizing t with
  | nil => exact becomes_nil t
  | cons a as ih => exact (becomes_add t a).trans (ih (t.add a))

/-- What becomes of a table is settled by the runs that each cell gets. -/
theorem Becomes.unique (hu : t.Becomes as u) (hv : t.Becomes bs v)
    (h : ∀ i j, runsAt i j as = runsAt i j bs) : u = v := by
  have hplaces (P : Nat → Nat → Prop) :
      (∀ a ∈ as, P a.row a.column) ↔ ∀ b ∈ bs, P b.row b.column := by
    rw [forall_mem_iff_runsAt, forall_mem_iff_runsAt]
    simp only [h]
  have hrows : extent (as.map (·.row)) = extent (bs.map (·.row)) :=
    eq_of_forall_ge_iff fun n => by
      rw [extent_map_le_iff, extent_map_le_iff]
      exact hplaces fun i _ => i < n
  have hcells (i : Nat) : extent (columnsOn i as) = extent (columnsOn i bs) :=
    eq_of_forall_ge_iff fun n => by
      rw [extent_columnsOn_le_iff, extent_columnsOn_le_iff]
      exact hplaces fun i' j => i = i' → j < n
  refine ext_of_rowAt (hu.width.trans hv.width.symm) (hu.headerRows.trans hv.headerRows.symm)
    (by rw [hu.rows, hv.rows, hrows]) fun i => Row.ext_of_cellAt ?_ fun j => ?_
  · rw [hu.cells, hv.cells, hcells]
  · rw [hu.runs, hv.runs, h]

/-- The order in which different cells get their runs leaves no trace. -/
theorem addAll_congr (t : Table) (h : ∀ i j, runsAt i j as = runsAt i j bs) :
    t.addAll as = t.addAll bs :=
  (becomes_addAll t as).unique (becomes_addAll t bs) h

/-- Additions to different cells may change places. -/
theorem add_comm_of_ne (t : Table) {a b : Addition} (h : (a.row, a.column) ≠ (b.row, b.column)) :
    (t.add a).add b = (t.add b).add a := by
  suffices h : ∀ i j, runsAt i j [a, b] = runsAt i j [b, a] from addAll_congr t h
  intro i j
  rw [← List.singleton_append, runsAt_append, ← List.singleton_append (l := [a]), runsAt_append]
  simp only [runsAt_singleton]
  split
  case isFalse => rw [List.nil_append, List.append_nil]
  case isTrue ha =>
    have hb : ¬ (i = b.row ∧ j = b.column) := fun hb =>
      h (Prod.ext (ha.1.symm.trans hb.1) (ha.2.symm.trans hb.2))
    rw [if_neg hb, List.nil_append, List.append_nil]

/-- A table has as many columns as its longest row. -/
theorem columnCount_le_iff {n : Nat} :
    t.columnCount ≤ n ↔ ∀ i, (t.rowAt i).cells.length ≤ n := by
  constructor
  · intro h i
    by_cases hi : i < t.rows.length
    · rw [rowAt_of_lt hi]
      exact (length_le_columnCount (List.getElem_mem hi)).trans h
    · rw [rowAt, List.getElem?_eq_none (Nat.le_of_not_lt hi)]
      exact Nat.zero_le n
  · intro h
    obtain h0 | hmem := foldl_max_mem (t.rows.map fun r => r.cells.length) 0
    · rw [columnCount, h0]
      exact Nat.zero_le n
    · obtain ⟨r, hr, hlen⟩ := List.mem_map.1 hmem
      obtain ⟨i, hi, rfl⟩ := List.getElem_of_mem hr
      rw [columnCount, ← hlen, ← rowAt_of_lt hi]
      exact h i

/-- A table that began without rows has the rows and cells that the places of the additions demand,
    and no others: as many rows as it takes to reach the last one that was used, as many cells in
    each row as it takes to reach the last one used there, and as many columns as the widest row. A
    cell holds exactly what was added to it, in order. Each addition finds its place, and two
    additions to different cells may change places. -/
theorem addAll_fresh (width : Number) (headerRows : Int) (as : List Addition) :
    let t := addAll { width, headerRows } as
    t.width = width ∧ t.headerRows = headerRows ∧
    t.rows.length = extent (as.map (·.row)) ∧
    (∀ (i : Nat) (hi : i < t.rows.length), t.rows[i].cells.length = extent (columnsOn i as)) ∧
    (∀ (i : Nat) (hi : i < t.rows.length) (j : Nat) (hj : j < t.rows[i].cells.length),
      t.rows[i].cells[j] = { runs := runsAt i j as }) ∧
    t.columnCount = extent (as.map (·.column)) ∧
    (∀ a : Addition, (t.addRun a.row a.column a.run).2 = true) ∧
    ∀ a b : Addition, (a.row, a.column) ≠ (b.row, b.column) →
      (t.add a).add b = (t.add b).add a := by
  intro t
  have h : Becomes { width, headerRows } as t := becomes_addAll _ as
  have hcells (i : Nat) : (t.rowAt i).cells.length = extent (columnsOn i as) :=
    (h.cells i).trans (Nat.zero_max _)
  refine ⟨h.width, h.headerRows, h.rows.trans (Nat.zero_max _), fun i hi => ?_,
    fun i hi j hj => ?_, ?_, fun a => ?_, fun a b hab => add_comm_of_ne t hab⟩
  · rw [← rowAt_of_lt hi, hcells]
  · have hcell := h.runs i j
    rw [rowAt_of_lt hi, Row.cellAt_of_lt hj] at hcell
    exact hcell
  · -- The widest row and the last column are compared by the numbers that they are bounded by.
    refine eq_of_forall_ge_iff fun n => ?_
    rw [columnCount_le_iff, extent_map_le_iff]
    simp only [hcells, extent_columnsOn_le_iff]
    exact ⟨fun hn a ha => hn a.row a ha rfl, fun hn _ a ha _ => hn a ha⟩
  · rw [addRun, updateCell, updateRow_natCast, Row.updateCell_natCast]

/-- A place before the last one is filled without a new row or cell. -/
example :
    (addAll {} [⟨1, 2, { text := "a" }⟩, ⟨0, 0, { text := "b" }⟩, ⟨1, 0, { text := "c" }⟩]).rows.map
      (·.cells.map (·.text)) = [["b"], ["c", "", "a"]] := by
  decide

end Table

end Manuscript.Layout
