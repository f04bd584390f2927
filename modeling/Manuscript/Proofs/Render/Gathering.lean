import Mathlib.Data.List.Basic
import Manuscript.Render.Gathering

/-!
# What is gathered from a quote

The nodes of a quote that count are those reached through quotes, lists and items (`quotedList`).
Gathering a quote is taking these nodes one after another (`gatherAll_eq_foldl`): each gives a group
of runs (`group`), which is empty unless it is a paragraph, a heading or code, and a table gives
itself (`sourceTable?`). So what is gathered can be said at once (`gatherAll_eq`): the paragraph has
the groups that hold a run, with a break between each two, and the tables follow in their order.

* `quotations_eq`: a quotation consists of the same groups and the same tables;
* `blocks_gatherAll`: so the blocks of a quote are those of what is gathered.
-/

namespace Manuscript.Render

open Layout

/-! ## Quoted nodes -/

mutual

/-- The nodes that a quoted node stands for: those reached through quotes, lists and items, or else
    the node itself. -/
def quoted : Node → List Node
  | .blockQuote ns _ | .bulletList ns _ | .orderedList _ ns _ | .listItem ns _ => quotedList ns
  | n => [n]

/-- The nodes that a list of quoted nodes stands for, in document order. -/
def quotedList : List Node → List Node
  | [] => []
  | n :: ns => quoted n ++ quotedList ns

end

/-- The runs that a quoted node adds to the paragraph. -/
def group (o : DocxOptions) : Node → List Run
  | .paragraph ns _ | .heading _ ns _ => runs o quoteFormat ns
  | .fencedCode code _ _ | .indentedCode code _ =>
    textRuns code (quoteFormat.apply (.monospace true)) none
  | _ => []

/-- The header and the rows of a quoted table. -/
def sourceTable? : Node → Option (Option Node × List Node)
  | .table header rows _ => some (header, rows)
  | _ => none

/-- The groups of quoted nodes that hold any run. -/
def groups (o : DocxOptions) (ns : List Node) : List (List Run) :=
  ((quotedList ns).map (group o)).filter fun rs => !rs.isEmpty

/-- The tables among quoted nodes, each by its header and its rows. -/
def sourceTables (ns : List Node) : List (Option Node × List Node) :=
  (quotedList ns).filterMap sourceTable?

/-! ## One pass -/

namespace Gathering

/-- Takes a quoted node. -/
def take (o : DocxOptions) (g : Gathering) (n : Node) : Gathering :=
  { g.join (group o n) with tables := g.tables ++ (sourceTable? n).toList }

@[simp] theorem join_nil (g : Gathering) : g.join [] = g := rfl

/-- Joining a group keeps the tables. -/
@[simp] theorem tables_join (g : Gathering) (rs : List Run) : (g.join rs).tables = g.tables := by
  rw [join]
  split
  · rfl
  · split <;> rfl

/-- A node that is no table has its group joined. -/
theorem take_eq_join {o : DocxOptions} {n : Node} (h : sourceTable? n = none) (g : Gathering) :
    g.take o n = g.join (group o n) := by
  rw [take, h, Option.toList_none, List.append_nil, ← tables_join g (group o n)]

/-- A node without runs that is no table changes nothing. -/
theorem take_eq_self {o : DocxOptions} {n : Node} (h : sourceTable? n = none)
    (hg : group o n = []) (g : Gathering) : g.take o n = g := by
  rw [take_eq_join h, hg, join_nil]

end Gathering

mutual

/-- Gathering a node is taking what is quoted of it, one after the other. -/
theorem gather_eq_foldl (o : DocxOptions) (g : Gathering) (n : Node) :
    gather o g n = (quoted n).foldl (Gathering.take o) g := by
  cases n with
  | blockQuote ns | bulletList ns | orderedList _ ns | listItem ns =>
    rw [gather, quoted, gatherAll_eq_foldl]
  | paragraph | heading | fencedCode | indentedCode =>
    simp only [gather, quoted, List.foldl_cons, List.foldl_nil]
    rw [Gathering.take_eq_join rfl, group]
  | table => rfl
  | document | tableRow | tableCell | thematicBreak | htmlBlock | text | emphasis | strong
  | underline | code | link | image | softBreak | hardBreak | htmlInline =>
    exact (Gathering.take_eq_self rfl rfl g).symm

/-- Gathering takes the quoted nodes one after another, through whatever wraps them. -/
theorem gatherAll_eq_foldl (o : DocxOptions) (g : Gathering) (ns : List Node) :
    gatherAll o g ns = (quotedList ns).foldl (Gathering.take o) g := by
  cases ns with
  | nil => rfl
  | cons n ns =>
    rw [gatherAll, quotedList, List.foldl_append, ← gather_eq_foldl, ← gatherAll_eq_foldl]

end

/-! ## What is gathered -/

/-- A list with a separator is its first group, and then each other one after the separator. -/
theorem intercalate_cons_eq (sep g : List α) (gs : List (List α)) :
    sep.intercalate (g :: gs) = g ++ gs.flatMap fun g' => sep ++ g' := by
  induction gs generalizing g with
  | nil => simp
  | cons g' gs ih =>
    rw [List.intercalate_cons_cons, ih, List.flatMap_cons]
    simp only [List.append_assoc]

theorem intercalate_append_singleton (sep : List α) {gs : List (List α)} (h : gs ≠ [])
    (g : List α) : sep.intercalate (gs ++ [g]) = sep.intercalate gs ++ (sep ++ g) := by
  cases gs with
  | nil => exact absurd rfl h
  | cons g' gs =>
    rw [List.cons_append, intercalate_cons_eq, intercalate_cons_eq, List.flatMap_append,
      List.flatMap_singleton, List.append_assoc]

/-- Groups that hold a run give a paragraph that does, unless there are none. -/
theorem intercalate_eq_nil_iff {sep : List α} {gs : List (List α)} (h : ∀ g ∈ gs, g ≠ []) :
    sep.intercalate gs = [] ↔ gs = [] := by
  cases gs with
  | nil => simp
  | cons g gs =>
    have hg : g ≠ [] := h g List.mem_cons_self
    simp [intercalate_cons_eq, hg]

namespace Gathering

/-- The paragraph of a quote consists of the given groups, each of which holds a run. -/
structure Joins (g : Gathering) (gs : List (List Run)) : Prop where
  runs : g.runs = [quoteBreak].intercalate gs
  nonempty : ∀ rs ∈ gs, rs ≠ []

theorem Joins.empty : Joins {} [] :=
  ⟨rfl, nofun⟩

/-- A group that holds a run is joined to the others. -/
theorem Joins.join {g : Gathering} {gs : List (List Run)} (h : g.Joins gs) (rs : List Run) :
    (g.join rs).Joins (gs ++ [rs].filter fun rs => !rs.isEmpty) := by
  by_cases hrs : rs = []
  · simpa [hrs] using h
  · have hone : [rs].filter (fun rs => !rs.isEmpty) = [rs] := by simp [hrs]
    have hruns : g.runs = [] ↔ gs = [] := by rw [h.runs, intercalate_eq_nil_iff h.nonempty]
    refine ⟨?_, ?_⟩
    · rw [hone, Gathering.join, if_neg (by simpa using hrs)]
      by_cases hgs : gs = []
      · rw [if_pos (by simpa using hruns.2 hgs), hgs]
        simp
      · rw [if_neg (by simpa using mt hruns.1 hgs), intercalate_append_singleton _ hgs, h.runs]
        rfl
    · rw [hone, List.forall_mem_append, List.forall_mem_singleton]
      exact ⟨h.nonempty, hrs⟩

/-- Taking a node joins its group, unless that is empty. -/
theorem Joins.take {g : Gathering} {gs : List (List Run)} (h : g.Joins gs) (o : DocxOptions)
    (n : Node) : (g.take o n).Joins (gs ++ [group o n].filter fun rs => !rs.isEmpty) :=
  ⟨(h.join (group o n)).runs, (h.join (group o n)).nonempty⟩

/-- Taking nodes joins those of their groups that are not empty. -/
theorem Joins.foldl_take {g : Gathering} {gs : List (List Run)} (h : g.Joins gs)
    (o : DocxOptions) (ns : List Node) :
    (ns.foldl (Gathering.take o) g).Joins
      (gs ++ (ns.map (group o)).filter fun rs => !rs.isEmpty) := by
  induction ns generalizing g gs with
  | nil => simpa using h
  | cons n ns ih =>
    have hsplit : (((n :: ns).map (group o)).filter fun rs => !rs.isEmpty) =
        ([group o n].filter fun rs => !rs.isEmpty) ++
          (ns.map (group o)).filter fun rs => !rs.isEmpty := by
      rw [← List.filter_append]
      rfl
    rw [hsplit, ← List.append_assoc]
    exact ih (h.take o n)

/-- Taking nodes keeps their tables in order. -/
theorem tables_foldl_take (o : DocxOptions) (g : Gathering) (ns : List Node) :
    (ns.foldl (Gathering.take o) g).tables = g.tables ++ ns.filterMap sourceTable? := by
  induction ns generalizing g with
  | nil => simp
  | cons n ns ih =>
    rw [List.foldl_cons, ih, List.filterMap_cons]
    cases h : sourceTable? n <;> simp [take, h]

end Gathering

/-- What is gathered from a quote: the groups that hold any run, with a break between each two, and
    the tables. -/
theorem gatherAll_eq (o : DocxOptions) (ns : List Node) :
    gatherAll o {} ns =
      { runs := [quoteBreak].intercalate (groups o ns), tables := sourceTables ns } := by
  have hruns := (Gathering.Joins.empty.foldl_take o (quotedList ns)).runs
  have htables := Gathering.tables_foldl_take o {} (quotedList ns)
  rw [gatherAll_eq_foldl]
  rw [List.nil_append] at hruns htables
  exact congrArg₂ Gathering.mk hruns htables

/-! ## Quotations -/

/-- A quotation of one node that nothing has to be reached through. -/
theorem quotation_single {o : DocxOptions} {n : Node} {q : Quotation}
    (hgroups : q.groups = [group o n].filter fun rs => !rs.isEmpty)
    (htables : q.tables = (sourceTable? n).toList.map fun t => table o t.1 t.2) :
    q = ⟨([n].map (group o)).filter fun rs => !rs.isEmpty,
      ([n].filterMap sourceTable?).map fun t => table o t.1 t.2⟩ := by
  obtain ⟨gs, ts⟩ := q
  cases h : sourceTable? n <;> simp_all

/-- A group of runs is the only one, unless it is empty. -/
theorem Quotation.groups_ofRuns (rs : List Run) :
    (Quotation.ofRuns rs).groups = [rs].filter fun rs => !rs.isEmpty := by
  cases rs <;> rfl

theorem Quotation.tables_ofRuns (rs : List Run) : (Quotation.ofRuns rs).tables = [] := by
  cases rs <;> rfl

mutual

/-- What is quoted of a node are the groups of its leaves and its tables. -/
theorem quotation_eq (o : DocxOptions) (n : Node) :
    quotation o n = ⟨((quoted n).map (group o)).filter fun rs => !rs.isEmpty,
      ((quoted n).filterMap sourceTable?).map fun t => table o t.1 t.2⟩ := by
  cases n with
  | blockQuote ns | bulletList ns | orderedList _ ns | listItem ns =>
    rw [quotation, quoted]
    exact quotations_eq o ns
  | paragraph | heading | fencedCode | indentedCode =>
    exact quotation_single (Quotation.groups_ofRuns _) (Quotation.tables_ofRuns _)
  | table | document | tableRow | tableCell | thematicBreak | htmlBlock | text | emphasis | strong
  | underline | code | link | image | softBreak | hardBreak | htmlInline =>
    exact quotation_single rfl rfl

/-- A quotation consists of the groups that are gathered and of their tables. -/
theorem quotations_eq (o : DocxOptions) (ns : List Node) :
    quotations o ns = ⟨groups o ns, (sourceTables ns).map fun t => table o t.1 t.2⟩ := by
  cases ns with
  | nil => rfl
  | cons n ns =>
    rw [quotations, quotation_eq, quotations_eq, groups, groups, sourceTables, sourceTables,
      quotedList, List.map_append, List.filter_append, List.filterMap_append, List.map_append]
    rfl

end

/-- The blocks that are written of what was gathered: the paragraph, unless that would be empty and
    there is a table, and the tables. -/
def Gathering.blocks (o : DocxOptions) (g : Gathering) : List Block :=
  (if !g.runs.isEmpty || g.tables.isEmpty then [.paragraph g.paragraph] else []) ++
    g.tables.map fun t => .table (table o t.1 t.2)

/-- The blocks of a quote are those of what is gathered from it. -/
theorem blocks_gatherAll (o : DocxOptions) (ns : List Node) :
    (gatherAll o {} ns).blocks o = quote o ns := by
  rw [quote, Quotation.blocks, Quotation.runs, quotations_eq, gatherAll_eq, Gathering.blocks]
  have htables : ((sourceTables ns).map fun t => table o t.1 t.2).isEmpty =
      (sourceTables ns).isEmpty := List.isEmpty_map
  rw [List.map_map, htables]
  cases ([quoteBreak].intercalate (groups o ns)).isEmpty <;>
    cases (sourceTables ns).isEmpty <;> rfl

end Manuscript.Render
