import Manuscript.Layout.Table

/-!
# The columns of a table

A table has as many columns as its longest row has cells (`Table.length_le_columnCount`). The
greatest of some numbers is at least each of them, and is one of them unless it is the number that
the search began with (`le_foldl_max`, `foldl_max_mem`).
-/

namespace Manuscript.Layout

theorem le_foldl_max (ns : List Nat) (start : Nat) :
    start ≤ ns.foldl max start ∧ ∀ n ∈ ns, n ≤ ns.foldl max start := by
  induction ns generalizing start with
  | nil => simp
  | cons n ns ih =>
    obtain ⟨hstart, hns⟩ := ih (max start n)
    rw [List.foldl_cons, List.forall_mem_cons]
    exact ⟨by omega, by omega, hns⟩

theorem foldl_max_mem (ns : List Nat) (start : Nat) :
    ns.foldl max start = start ∨ ns.foldl max start ∈ ns := by
  induction ns generalizing start with
  | nil => exact .inl rfl
  | cons n ns ih =>
    rw [List.foldl_cons]
    obtain h | h := ih (max start n)
    · rw [h]
      obtain hle | hle := Nat.le_total start n
      · exact .inr (by simp [hle])
      · exact .inl (Nat.max_eq_left hle)
    · exact .inr (List.mem_cons_of_mem n h)

namespace Table

/-- No row has more cells than the table has columns. -/
theorem length_le_columnCount {t : Table} {row : Row} (h : row ∈ t.rows) :
    row.cells.length ≤ t.columnCount :=
  (le_foldl_max _ 0).2 _ (List.mem_map_of_mem h)

end Table

end Manuscript.Layout
