import Manuscript.Proofs.Docx.Saving
import Manuscript.Proofs.Docx.Simulation
import Manuscript.Proofs.Docx.Standard
import Manuscript.Proofs.Xml.Children

/-!
# The body of a written document

What is written of a document is read back here through the nodes of its body: the rows of a table,
the cells of a row, what a cell holds. What is written for each block *mirrors* the block
(`Mirrors`): a paragraph is what writing it leads to, and a table is a full grid in which
each cell holds what writing the paragraph of its place leads to, or an empty paragraph where its
row is too short. A table without cells leaves nothing.

* `forall₂_mirrors_of_leads`: writing blocks leads to their mirrors, in their order;
* `bodyNodes_withBlocks`: they follow the content of the body, before its section;
* `mirrored_of_saved`: so a document that is saved mirrors the laid out one, into bytes or a file.
-/

namespace Manuscript

namespace Docx

open Layout (Paragraph)

/-! ## Tables read back -/

/-- The rows of a table. -/
def tableRows (n : Xml.Node) : List Xml.Node :=
  n.childrenNamed (w "tr")

/-- The cells of a row. -/
def rowCells (n : Xml.Node) : List Xml.Node :=
  n.childrenNamed (w "tc")

/-- What a cell holds besides its properties. -/
def cellContent (n : Xml.Node) : List Xml.Node :=
  n.children.filter fun m => !m.isNamed (w "tcPr")

/-- Whether a row is marked as one of the header. -/
def isHeaderRow (n : Xml.Node) : Bool :=
  (n.childrenNamed (w "trPr")).any fun p => (p.child? (w "tblHeader")).isSome

/-- The widths that a table asks for, each with its unit. -/
def preferredWidths (n : Xml.Node) : List (Option String × Option String) :=
  (n.childrenNamed (w "tblPr")).flatMap fun p => (p.childrenNamed (w "tblW")).map fun m =>
    (m.attribute? (w "w"), m.attribute? (w "type"))

/-- The children of an element that have a name. -/
theorem childrenNamed_element (word : String) (attributes : List (String × String))
    (children : List Xml.Node) (name : Xml.Name) :
    (element word attributes children).childrenNamed name = children.filter (·.isNamed name) :=
  rfl

/-- A cell holds what is put into it, beside its properties. -/
theorem cellContent_cell {n : Xml.Node} (h : n.isNamed (w "tcPr") = false) (width : String) :
    cellContent (Setting.cell width n) = [n] := by
  have hproperties : (element "tcPr" [] [element "tcW" [("type", "dxa"), ("w", width)]]).isNamed
      (w "tcPr") = true := isNamed_element ..
  rw [cellContent, Setting.cell, element, Xml.Node.children, List.filter_cons, hproperties,
    List.filter_cons, h]
  rfl

theorem isNamed_of_mem_cells {width : String} {ns : List Xml.Node} {n : Xml.Node}
    (h : n ∈ ns.map (Setting.cell width)) (word : String) : n.isNamed (w word) = ("tc" == word) := by
  obtain ⟨m, -, rfl⟩ := List.mem_map.1 h
  exact isNamed_element ..

/-- The cells of a row are its own, filled up with empty ones. -/
theorem rowCells_rowNode (columns : Nat) (width : String) (isHeader : Bool) (ps : List Xml.Node) :
    rowCells (rowNode columns width isHeader ps) =
      (filledRow columns ps).map (Setting.cell width) := by
  have hmark :
      (if isHeader then [Setting.headerMark] else []).filter (·.isNamed (w "tc")) = [] := by
    cases isHeader <;> rfl
  rw [rowCells, rowNode, childrenNamed_element, List.filter_append, hmark, List.nil_append]
  exact List.filter_eq_self.2 fun n hn => isNamed_of_mem_cells hn "tc"

/-- A row is marked as header if it is made one. -/
theorem isHeaderRow_rowNode (columns : Nat) (width : String) (isHeader : Bool)
    (ps : List Xml.Node) : isHeaderRow (rowNode columns width isHeader ps) = isHeader := by
  have hcells : ((filledRow columns ps).map (Setting.cell width)).filter
      (·.isNamed (w "trPr")) = [] :=
    List.filter_eq_nil_iff.2 fun n hn => by simp [isNamed_of_mem_cells hn]
  rw [filledRow] at hcells
  rw [isHeaderRow, rowNode, childrenNamed_element, List.filter_append, hcells]
  cases isHeader <;> decide

theorem isNamed_of_mem_rows {columns : Nat} {width : String} {headerRows : Int}
    {pss : List (List Xml.Node)} {n : Xml.Node}
    (h : n ∈ pss.zipIdx.map fun ps => rowNode columns width ((ps.2 : Int) < headerRows) ps.1)
    (word : String) : n.isNamed (w word) = ("tr" == word) := by
  obtain ⟨ps, -, rfl⟩ := List.mem_map.1 h
  exact isNamed_element ..

/-- The rows of a table are those put into it. -/
theorem tableRows_tableNode {properties : Xml.Node} (h : properties.isNamed (w "tr") = false)
    (columns : Nat) (width : String) (headerRows : Int) (pss : List (List Xml.Node)) :
    tableRows (tableNode columns width headerRows properties pss) = pss.zipIdx.map fun ps =>
      rowNode columns width ((ps.2 : Int) < headerRows) ps.1 := by
  rw [tableRows, tableNode, childrenNamed_element, List.filter_append,
    List.filter_eq_self.2 fun n hn => isNamed_of_mem_rows hn "tr"]
  simp [h, isNamed_element]

/-- The properties of a table name its style if there is one, and its width. -/
theorem exists_tableProperties_eq {s : Setting} {styles : Styles} {width : Number} {n : Xml.Node}
    (h : s.tableProperties styles width = .ok n) :
    ∃ (id? : Option String) (look : List (String × String)),
      n = element "tblPr" [] ((id?.map fun id => element "tblStyle" [("val", id)]).toList ++
        [element "tblW" [("w", width.text), ("type", "dxa")], element "tblLook" look]) := by
  rw [Setting.tableProperties] at h
  split at h
  all_goals
    obtain ⟨style, -, h⟩ := ok_of_bind h
    cases h
    exact ⟨_, _, rfl⟩

/-- A table has the one width that is asked for. -/
theorem preferredWidths_tableNode {s : Setting} {styles : Styles} {asked : Number}
    {properties : Xml.Node} (h : s.tableProperties styles asked = .ok properties) (columns : Nat)
    (width : String) (headerRows : Int) (pss : List (List Xml.Node)) :
    preferredWidths (tableNode columns width headerRows properties pss) =
      [(some asked.text, some "dxa")] := by
  obtain ⟨id?, look, rfl⟩ := exists_tableProperties_eq h
  have hrows : (pss.zipIdx.map fun ps => rowNode columns width ((ps.2 : Int) < headerRows)
      ps.1).filter (·.isNamed (w "tblPr")) = [] :=
    List.filter_eq_nil_iff.2 fun n hn => by simp [isNamed_of_mem_rows hn]
  rw [preferredWidths, tableNode, childrenNamed_element, List.filter_append, hrows]
  cases id? <;> rfl

/-! ## Mirrors -/

section Mirrors

variable (S : Paragraph → Xml.Node → Prop)

/-- A row mirrors a row of a laid out table, where `S` says what paragraphs are written as: it has
    all columns, and each cell holds one paragraph, which is empty in the columns that the laid out
    row does not reach. -/
structure MirrorsRow (columns : Nat) (inHeader : Prop) (row : Layout.Row) (n : Xml.Node) :
    Prop where
  header : isHeaderRow n = true ↔ inHeader
  columns : (rowCells n).length = columns
  cells : ∀ (j : Nat) cell, (rowCells n)[j]? = some cell →
    ∃ m, cellContent cell = [m] ∧ InPlace S row.cells[j]? m

/-- A table mirrors a laid out one: it has its width, and as many rows, which mirror its rows. -/
structure MirrorsTable (t : Layout.Table) (n : Xml.Node) : Prop where
  named : n.isNamed (w "tbl") = true
  width : preferredWidths n = [(some t.width.text, some "dxa")]
  length : (tableRows n).length = t.rows.length
  rows : ∀ (i : Nat) row m, t.rows[i]? = some row → (tableRows n)[i]? = some m →
    MirrorsRow S t.columnCount ((i : Int) < t.headerRows) row m

/-- Nodes mirror a block: a paragraph is one node, and so is a table unless it has no cells. -/
inductive Mirrors : Layout.Block → List Xml.Node → Prop
  | paragraph {p n} : n.isNamed (w "p") = true → S p n → Mirrors (.paragraph p) [n]
  | table {t n} : t.rows ≠ [] → 0 < t.columnCount → MirrorsTable S t n → Mirrors (.table t) [n]
  | skipped {t} : t.rows = [] ∨ t.columnCount = 0 → Mirrors (.table t) []

variable {S} {S' : Paragraph → Xml.Node → Prop}

/-- What is in place by one account is so by a weaker one. -/
theorem InPlace.imp (hS : ∀ p n, S p n → S' p n) {slot : Option Paragraph} {n : Xml.Node}
    (h : InPlace S slot n) : InPlace S' slot n := by
  cases slot with
  | none => exact h
  | some p => exact hS p n h

theorem MirrorsRow.imp (hS : ∀ p n, S p n → S' p n) {columns : Nat} {inHeader : Prop}
    {row : Layout.Row} {n : Xml.Node} (h : MirrorsRow S columns inHeader row n) :
    MirrorsRow S' columns inHeader row n where
  header := h.header
  columns := h.columns
  cells j cell hcell := by
    obtain ⟨m, hm, hplace⟩ := h.cells j cell hcell
    exact ⟨m, hm, hplace.imp hS⟩

/-- What mirrors a block by one account does so by a weaker one. -/
theorem Mirrors.imp (hS : ∀ p n, S p n → S' p n) {b : Layout.Block} {ns : List Xml.Node}
    (h : Mirrors S b ns) : Mirrors S' b ns := by
  cases h with
  | paragraph hnamed hn => exact .paragraph hnamed (hS _ _ hn)
  | table hrows hcolumns hn =>
    exact .table hrows hcolumns { hn with
      rows := fun i row m hrow hm => (hn.rows i row m hrow hm).imp hS }
  | skipped hnone => exact .skipped hnone

/-- What is at one index of two related lists is related. -/
theorem rel_of_getElem? {R : α → β → Prop} {as : List α} {bs : List β} (h : List.Forall₂ R as bs)
    {i : Nat} {a : α} {b : β} (ha : as[i]? = some a) (hb : bs[i]? = some b) : R a b := by
  obtain ⟨hi, rfl⟩ := List.getElem?_eq_some_iff.1 ha
  obtain ⟨hi', rfl⟩ := List.getElem?_eq_some_iff.1 hb
  exact h.get hi hi'

/-- Where a row is filled up, its own cells are at their places. -/
theorem getElem?_filled {cells : List α} {columns j : Nat} (hcells : cells.length ≤ columns)
    (hj : j < columns) :
    (cells.map some ++ List.replicate (columns - cells.length) none)[j]? = some cells[j]? := by
  by_cases hlt : j < cells.length
  · simp [List.getElem?_append_left, hlt]
  · have hge : cells.length ≤ j := Nat.le_of_not_lt hlt
    rw [List.getElem?_append_right (by simpa using hge), List.getElem?_replicate, List.length_map,
      if_pos (by omega), List.getElem?_eq_none hge]

/-- A row mirrors one of the model, if its cells do. -/
theorem mirrorsRow_rowNode {columns : Nat} {row : Layout.Row} {ps : List Xml.Node}
    (hS : ∀ p n, S p n → n.isNamed (w "tcPr") = false)
    (hps : List.Forall₂ S row.cells ps) (hle : row.cells.length ≤ columns)
    (width : String) (isHeader : Bool) :
    MirrorsRow S columns (isHeader = true) row (rowNode columns width isHeader ps) := by
  have hlength : (filledRow columns ps).length = columns := by
    rw [filledRow, List.length_append, List.length_replicate, ← hps.length_eq]
    omega
  refine ⟨by rw [isHeaderRow_rowNode], ?_, fun j cell hcell => ?_⟩
  · rw [rowCells_rowNode, List.length_map, hlength]
  · rw [rowCells_rowNode, List.getElem?_map, Option.map_eq_some_iff] at hcell
    obtain ⟨m, hm, rfl⟩ := hcell
    have hj : j < columns := hlength ▸ (List.getElem?_eq_some_iff.1 hm).1
    have hplace := rel_of_getElem? (forall₂_filledRow hps columns) (getElem?_filled hle hj) hm
    refine ⟨m, cellContent_cell ?_ width, hplace⟩
    -- What stands at a place is a paragraph, written or empty, and not properties of the cell.
    cases hslot : row.cells[j]? with
    | none =>
      rw [hslot] at hplace
      cases hplace
      exact isNamed_element ..
    | some p =>
      rw [hslot] at hplace
      exact hS p m hplace

/-- A table mirrors one of the model, if the grid of its cells does. -/
theorem mirrorsTable_tableNode {s : Setting} {t : Layout.Table} {styles : Styles}
    {properties : Xml.Node} (hproperties : s.tableProperties styles t.width = .ok properties)
    (hS : ∀ p n, S p n → n.isNamed (w "tcPr") = false) {pss : List (List Xml.Node)}
    (hpss : List.Forall₂ (List.Forall₂ S) (t.rows.map (·.cells)) pss) (width : String) :
    MirrorsTable S t (tableNode t.columnCount width t.headerRows properties pss) := by
  have hnamed : properties.isNamed (w "tr") = false := by
    obtain ⟨id?, look, rfl⟩ := exists_tableProperties_eq hproperties
    exact isNamed_element ..
  have htable := tableRows_tableNode hnamed t.columnCount width t.headerRows pss
  refine ⟨isNamed_element .., preferredWidths_tableNode hproperties .., ?_, ?_⟩
  · rw [htable, List.length_map, List.length_zipIdx, ← hpss.length_eq, List.length_map]
  · intro i row m hrow hm
    rw [htable, List.getElem?_map, List.getElem?_zipIdx, Option.map_map,
      Option.map_eq_some_iff] at hm
    obtain ⟨ps, hps, rfl⟩ := hm
    -- The row at a place was written from the row of the table at that place.
    have hcells : (t.rows.map (·.cells))[i]? = some row.cells := by
      rw [List.getElem?_map, hrow]
      rfl
    have hrow := mirrorsRow_rowNode hS (rel_of_getElem? hpss hcells hps)
      (Layout.Table.length_le_columnCount (List.mem_of_getElem? hrow)) width
      (decide ((i : Int) < t.headerRows))
    simpa using hrow

end Mirrors

/-! ## What is written mirrors the blocks -/

/-- A node is what writing a paragraph leads to, at some time between two drafts. -/
def Setting.Wrote (s : Setting) (d d' : Draft) (p : Paragraph) (n : Xml.Node) : Prop :=
  ∃ e e', d.Grows e ∧ Leads (s.paragraph p) e n e' ∧ e'.Grows d'

section

variable {s : Setting} {d d' d'' : Draft}

/-- What a paragraph is written as is named as one. -/
theorem isNamed_of_leads_paragraph {p : Paragraph} {n : Xml.Node}
    (h : Leads (s.paragraph p) d n d') (word : String) : n.isNamed (w word) = ("p" == word) := by
  obtain ⟨ps, ns, -, -, rfl⟩ := Setting.leads_paragraph.1 h
  exact isNamed_element ..

/-- What has been written is still so when the draft has grown. -/
theorem Setting.Wrote.of_grows (hd : d'.Grows d'') (p : Paragraph) (n : Xml.Node)
    (h : s.Wrote d d' p n) : s.Wrote d d'' p n := by
  obtain ⟨e, e', he, hn, he'⟩ := h
  exact ⟨e, e', he, hn, he'.trans hd⟩

/-- The paragraphs of a grid are written one after the other. -/
theorem forall₂_wrote_of_leads_grid {rows : List (List Paragraph)} {pss : List (List Xml.Node)}
    {e : Draft} (he : d.Grows e) (h : Leads (s.grid rows) e pss d') :
    List.Forall₂ (List.Forall₂ (s.Wrote d d')) rows pss := by
  refine forall₂_of_grows_mapM (R := fun d' => List.Forall₂ (s.Wrote d d'))
    (fun _ _ _ _ hd h => h.imp (Setting.Wrote.of_grows hd))
    (fun cells => steady_mapM s.steady_paragraph cells) (fun cells _ e₁ ps e₂ he₁ hps => ?_) h
  refine forall₂_of_grows_mapM (R := s.Wrote d) (fun _ _ p n hd => Setting.Wrote.of_grows hd p n)
    s.steady_paragraph (fun p _ e₃ n e₄ he₃ hn => ?_) hps
  exact ⟨e₃, e₄, (he.trans he₁).trans he₃, hn, .refl e₄⟩

/-- What a block is written as mirrors it. -/
theorem mirrors_of_leads {b : Layout.Block} {ns : List Xml.Node} {e : Draft} (he : d.Grows e)
    (h : Leads (s.block b) e ns d') : Mirrors (s.Wrote d d') b ns := by
  have hnamed (p : Paragraph) (n : Xml.Node) (h : s.Wrote d d' p n) :
      n.isNamed (w "tcPr") = false := by
    obtain ⟨e₁, e₂, -, hn, -⟩ := h
    exact isNamed_of_leads_paragraph hn _
  obtain ⟨pss, hpss, hassembled⟩ := Setting.leads_block.1 h
  cases b with
  | paragraph p =>
    obtain ⟨n, hn, rfl⟩ := Setting.leads_grid_single.1 hpss
    simp only [Setting.assembled] at hassembled
    split at hassembled
    · cases hassembled
    · cases hassembled
      exact .paragraph (isNamed_of_leads_paragraph hn _) ⟨e, d', he, hn, .refl d'⟩
  | table t =>
    have hwrote := forall₂_wrote_of_leads_grid he hpss
    rw [rowsOf] at hwrote
    simp only [Setting.assembled] at hassembled
    split at hassembled
    · cases hassembled
      exact .skipped (.inr ‹_›)
    · rename_i hcolumns
      obtain ⟨width, -, hassembled⟩ := ok_of_bind hassembled
      obtain ⟨properties, hproperties, hassembled⟩ := ok_of_bind hassembled
      cases hassembled
      rw [if_neg hcolumns] at hwrote
      refine .table (fun hnil => hcolumns ?_) (Nat.pos_of_ne_zero hcolumns)
        (mirrorsTable_tableNode hproperties hnamed hwrote _)
      rw [Layout.Table.columnCount, hnil]
      rfl

/-- Writing blocks leads to their mirrors. -/
theorem forall₂_mirrors_of_leads {bs : List Layout.Block} {nss : List (List Xml.Node)}
    (h : Leads (bs.mapM s.block) d nss d') :
    List.Forall₂ (Mirrors (s.Wrote d d')) bs nss := by
  refine forall₂_of_grows_mapM (R := fun d' => Mirrors (s.Wrote d d'))
    (fun _ _ _ _ hd h => h.imp (Setting.Wrote.of_grows hd)) s.steady_block ?_ h
  exact fun b _ e ns e' he hns => mirrors_of_leads he hns

end

/-! ## The body -/

/-- What the body of a document holds. -/
def bodyNodes (tree : Xml.Node) : List Xml.Node :=
  ((body? tree).map (·.children)).getD []

/-- The nodes of a body up to its section, or all of them if it has none. -/
def beforeSection (ns : List Xml.Node) : List Xml.Node :=
  ns.takeWhile fun n => !n.isNamed (w "sectPr")

/-- The nodes of a body from its section on. -/
def fromSection (ns : List Xml.Node) : List Xml.Node :=
  ns.dropWhile fun n => !n.isNamed (w "sectPr")

section

variable {s : Setting} {d d' : Draft}

/-- Blocks come after what is in the body, and before its last section. -/
theorem bodyNodes_withBlocks {blocks : List Xml.Node} (h : body? d.tree = none → blocks = []) :
    bodyNodes (d.withBlocks blocks).tree =
      beforeSection (bodyNodes d.tree) ++ blocks ++ fromSection (bodyNodes d.tree) := by
  let add (n : Xml.Node) := n.withChildren (Xml.Node.insertBefore [w "sectPr"] blocks n.children)
  have hkeeps (n : Xml.Node) : (add n).isNamed (w "body") = n.isNamed (w "body") :=
    Xml.Node.isNamed_withChildren ..
  have hadd : body? (d.withBlocks blocks).tree = (body? d.tree).map add :=
    Xml.Node.child?_withChildren_updateFirst hkeeps d.tree
  rw [bodyNodes, hadd, bodyNodes]
  cases hbody : body? d.tree with
  | none =>
    rw [h hbody]
    rfl
  | some body =>
    have hnamed : body.isNamed (w "body") = true := by simpa using List.find?_some hbody
    cases body with
    | text t => cases hnamed
    | element name as cs => exact Xml.Node.insertBefore_singleton (w "sectPr") blocks cs

/-- A document without a body has no place for a block. -/
theorem eq_nil_of_leads_block (hbody : body? d.tree = none) {b : Layout.Block} {ns : List Xml.Node}
    (h : Leads (s.block b) d ns d') : ns = [] := by
  obtain ⟨pss, -, hassembled⟩ := Setting.leads_block.1 h
  cases b with
  | paragraph p => simp [Setting.assembled, hbody] at hassembled
  | table t =>
    simp only [Setting.assembled] at hassembled
    split at hassembled
    · cases hassembled
      rfl
    -- The columns share the width of the last section, and sections stand in the body.
    · have hnone : d.tree.childrenNamed (w "body") = [] := by
        rw [body?, Xml.Node.child?, List.find?_eq_none] at hbody
        exact List.filter_eq_nil_iff.2 hbody
      obtain ⟨width, hwidth, -⟩ := ok_of_bind hassembled
      obtain ⟨text, htext, -⟩ := ok_of_bind hwidth
      rw [textWidth, sections, hnone] at htext
      cases htext

/-- Without a body nothing can be written. -/
theorem flatten_eq_nil_of_leads (hbody : body? d.tree = none) {bs : List Layout.Block}
    {nss : List (List Xml.Node)} (h : Leads (bs.mapM s.block) d nss d') : nss.flatten = [] := by
  have hall := forall₂_of_grows_mapM (R := fun _ _ ns => ns = []) (fun _ _ _ _ _ h => h)
    s.steady_block (fun b _ e ns e' he hns => eq_nil_of_leads_block (he.tree ▸ hbody) hns) h
  rw [List.flatten_eq_nil_iff]
  exact (forall_mem_of_forall₂ (p := fun _ => True) (q := (· = [])) (fun _ _ h => ⟨trivial, h⟩)
    hall).2

end

/-! ## The part of the document -/

namespace Container

/-- A container leads to its document by a name. -/
def Names (c : Container) (name : String) : Prop :=
  ∃ id kind, c.relationships.filter (·.kind == mainRelation) = [⟨id, kind, .part name⟩]

theorem name_of_part? {c : Container} {name : String} {p : Part} (h : c.part? name = some p) :
    p.name = name := by
  have hname := List.find?_some (show c.parts.find? (·.name == name) = some p from h)
  exact beq_iff_eq.1 hname

/-- The document of a container is the part that it names as such, if that is of the right type. -/
theorem main_eq_ok_iff {c : Container} {p : Part} :
    c.main = .ok p ↔ c.Names p.name ∧ c.part? p.name = some p ∧ p.mediaType = mainType := by
  rw [main]
  constructor
  · intro h
    obtain ⟨found, hfound, h⟩ := ok_of_bind h
    split at h
    · cases h
    · split at h
      · cases h
        obtain ⟨id, kind, name, hnames, hp⟩ := related_eq_some_iff.1 hfound
        cases name_of_part? hp
        exact ⟨⟨id, kind, hnames⟩, hp, ‹_›⟩
      · cases h
  · rintro ⟨⟨id, kind, hnames⟩, hp, htype⟩
    rw [related_eq_some_iff.2 ⟨id, kind, p.name, hnames, hp⟩]
    exact if_pos htype

end Container

namespace Draft

variable {d d' : Draft}

/-- A part that is put into a draft is found there. -/
theorem part?_putPart (d : Draft) (p : Part) : (d.putPart p).container.part? p.name = some p := by
  obtain ⟨q, hq⟩ := Container.exists_part?_iff.2 ⟨p, mem_parts_putPart.2 (.inl rfl), rfl⟩
  -- No other part is left of that name.
  obtain rfl | ⟨-, hne⟩ := mem_parts_putPart.1 (List.mem_of_find?_eq_some hq)
  · exact hq
  · exact absurd (Container.name_of_part? hq) hne

/-- Taking over styles changes no more of the document than its relationships. -/
theorem main_of_withStyles (h : d.withStyles = .ok d') :
    d'.main = { d.main with relationships := d'.main.relationships } ∧
      d'.container.relationships = d.container.relationships := by
  rw [withStyles] at h
  obtain ⟨⟨styles, name⟩, -, h⟩ := ok_of_bind h
  dsimp only at h
  split at h
  all_goals
    cases h
    exact ⟨rfl, rfl⟩

/-- Setting properties leaves the document where it is. -/
theorem names_of_withProperties {m : Metadata} {o : DocxOptions}
    (h : d.withProperties m o = .ok d') {name : String} (hname : d.container.Names name) :
    d'.container.Names name := by
  rw [withProperties] at h
  obtain ⟨found, -, h⟩ := ok_of_bind h
  cases found with
  | some p =>
    dsimp only at h
    split at h
    · obtain ⟨-, h, -⟩ := ok_of_bind h
      cases h
    · obtain ⟨content, -, h⟩ := ok_of_bind h
      obtain ⟨tree, -, h⟩ := ok_of_bind h
      cases h
      exact hname
  | none =>
    obtain ⟨tree, -, h⟩ := ok_of_bind h
    cases h
    obtain ⟨id, kind, hfilter⟩ := hname
    refine ⟨id, kind, ?_⟩
    obtain ⟨r, -, -, -, heq⟩ | ⟨id', -, heq⟩ := Container.relate_cases d.container.relationships
      propertiesRelation (.part Container.propertiesName)
    · show (Container.relate _ _ _).1.filter _ = _
      rw [heq, hfilter]
    -- The relationship that is added leads to the properties, not to the document.
    · have hkind : (propertiesRelation == mainRelation) = false := by decide
      show (Container.relate _ _ _).1.filter _ = _
      rw [heq, List.filter_append, hfilter, List.filter_cons, hkind]
      rfl

end Draft

/-- The container of a draft that blocks are written into leads to its document. -/
theorem Setting.Prepares.names {s : Setting} {m : Metadata} {d : Draft} (h : s.Prepares m d) :
    d.container.Names d.main.name ∧ d.main.mediaType = mainType := by
  obtain ⟨c, main, hopen, h⟩ := h
  obtain ⟨hmain, -⟩ := openTemplate_cases hopen
  obtain ⟨⟨id, kind, hfilter⟩, -, htype⟩ := Container.main_eq_ok_iff.1 hmain
  obtain ⟨d₀, hstart, h⟩ := ok_of_bind h
  obtain ⟨tree, -, hstart⟩ := ok_of_bind hstart
  cases hstart
  obtain ⟨d₁, hstyles, h⟩ := ok_of_bind h
  obtain ⟨place, -, h⟩ := ok_of_bind h
  obtain ⟨font, -, h⟩ := ok_of_bind h
  obtain ⟨size, -, h⟩ := ok_of_bind h
  obtain ⟨styles, -, h⟩ := ok_of_bind h
  obtain ⟨hmain₁, houter⟩ := Draft.main_of_withStyles hstyles
  obtain ⟨-, -, hmain₂, -⟩ := Draft.withProperties_cases h
  have hkept : d.main = { main with relationships := d₁.main.relationships } :=
    hmain₂.trans hmain₁
  rw [hkept]
  exact ⟨Draft.names_of_withProperties h ⟨id, kind, houter ▸ hfilter⟩, htype⟩

/-- A finished draft is a container whose document is that of the draft. -/
theorem main_of_finish {d : Draft} {c : Container} (hstyles : d.HasStyles)
    (hnames : d.container.Names d.main.name) (htype : d.main.mediaType = mainType)
    (h : d.finish = .ok c) : c.main = .ok { d.main with content := d.tree.bytes } := by
  obtain ⟨p, hp⟩ := Draft.exists_stylesPart?_iff.2 hstyles
  rw [Draft.finish_eq hp] at h
  cases h
  exact Container.main_eq_ok_iff.2 ⟨hnames, Draft.part?_putPart _ _, htype⟩

/-! ## Saved documents -/

/-- A container holds the mirror of a laid out document: the tree of its document is that of the
    template with what mirrors the blocks, in their order, after what the body holds already and
    before its section. -/
def Mirrored (s : Setting) (document : Layout.Document) (c : Container) : Prop :=
  ∃ template main tree d d' nss tree',
    openTemplate s.files s.options = .ok (template, main) ∧ Xml.read main.content = .ok tree ∧
    s.Prepares document.metadata d ∧
    List.Forall₂ (Mirrors (s.Wrote d d')) document.blocks nss ∧
    bodyNodes tree' = beforeSection (bodyNodes tree) ++ nss.flatten ++
      fromSection (bodyNodes tree) ∧
    c.main = .ok { d'.main with content := tree'.bytes }

section

variable {s : Setting} {document : Layout.Document}

/-- A container that is built mirrors the document. -/
theorem mirrored_of_build {c : Container} (h : (build s document).MayGive c) :
    Mirrored s document c := by
  obtain ⟨nss, d', hwritten, hfinish⟩ := mayGive_build h
  obtain ⟨d, hd, hlead⟩ := leads_of_mayGive_written hwritten.mayGive
  obtain ⟨hstyles, -, template, main, -, -, -, -, hopen, htree, -⟩ := hd.cases
  obtain ⟨hnames, htype⟩ := hd.names
  have hgrows := (steady_mapM s.steady_block _).grows hlead.mayLead
  refine ⟨template, main, d.tree, d, d', nss, (d'.withBlocks nss.flatten).tree, hopen, htree, hd,
    forall₂_mirrors_of_leads hlead, ?_, ?_⟩
  · rw [bodyNodes_withBlocks fun hbody => ?_, hgrows.tree]
    exact flatten_eq_nil_of_leads (hgrows.tree ▸ hbody) hlead
  -- Writing blocks has changed neither where the document is nor what kind of part it is.
  · have hmain := hgrows.main
    refine main_of_finish (d := d'.withBlocks nss.flatten) ?_ ?_ ?_ hfinish
    · obtain ⟨p, hp⟩ := Draft.exists_stylesPart?_iff.2 hstyles
      exact Draft.exists_stylesPart?_iff.1 ⟨p, hgrows.stylesPart? hp⟩
    · show d'.container.Names d'.main.name
      rw [hmain, Container.Names, hgrows.outer]
      exact hnames
    · show d'.main.mediaType = mainType
      rw [hmain]
      exact htype

end

/-- A document that is saved, as bytes or in a file, is written as the mirror of the laid out
    one. -/
theorem mirrored_of_saved (s : Setting) (document : Layout.Document) :
    (∀ bs, (toBytes s document).result.1 = .ok bs →
      ∃ c, c.bytes = .ok bs ∧ Mirrored s document c) ∧
    ∀ path fs, (toFile s document path).result.1 = .ok fs →
      ∃ c bs, c.bytes = .ok bs ∧ s.files.write (.ofText path) bs = .ok fs ∧
        Mirrored s document c := by
  constructor
  · intro bs h
    obtain ⟨c, hbuild, hbytes⟩ := Job.MayGive.of_bind (Job.mayGive_of_result_eq h)
    exact ⟨c, Job.mayGive_ofFault.1 (mayGive_of_explaining hbytes), mirrored_of_build hbuild⟩
  · intro path fs h
    obtain ⟨c, hbuild, h⟩ := Job.MayGive.of_bind (Job.mayGive_of_result_eq h)
    obtain ⟨_, -, h⟩ := Job.MayGive.of_bind h
    dsimp only at h
    split at h
    · -- A path that names no file is refused.
      obtain ⟨_, hnone, -⟩ := Job.MayGive.of_bind h
      cases mayGive_placed.1 hnone
    · obtain ⟨bs, hbytes, h⟩ := Job.MayGive.of_bind h
      obtain ⟨fs', hfs, h⟩ := Job.MayGive.of_bind h
      obtain ⟨_, -, h⟩ := Job.MayGive.of_bind h
      cases Job.mayGive_pure.1 h
      exact ⟨c, bs, Job.mayGive_ofFault.1 hbytes, mayGive_placed.1 hfs, mirrored_of_build hbuild⟩

/-- A paragraph, a table whose rows differ in length, and one without cells, saved in a document that
    starts from nothing. -/
theorem mirrored_of_saved_ragged :
    let cell (s : String) : Layout.Paragraph := { runs := [{ text := s }] }
    let grid : Layout.Table := {
      rows := [⟨[cell "a"]⟩, ⟨[cell "b", cell "c"]⟩, ⟨[]⟩], headerRows := 1 }
    let document : Layout.Document := {
      blocks := [.paragraph (cell "t"), .table grid, .table { rows := [⟨[]⟩] }] }
    ∃ bs c, (toBytes {} document).result.1 = .ok bs ∧ c.bytes = .ok bs ∧
      Mirrored {} document c := by
  intro cell grid document
  have hcell (d : Draft) : ∀ t ∈ ["t", "a", "b", "c"],
      ∃ n, Leads (Setting.paragraph {} (cell t)) d n d := by
    have hwritten : ∀ t ∈ ["t", "a", "b", "c"], (Run.written {} { text := t }).isOk = true := by
      decide +kernel
    intro t ht
    refine exists_leads_paragraph ⟨_, rfl⟩ ?_ ?_ ?_ <;> rintro r hr <;> cases List.mem_singleton.1 hr
    · rfl
    · rfl
    · exact exists_of_isOk (hwritten t ht)
  have hbody : (body? startTree).isNone = false := by decide +kernel
  have hcolumns : (columnWidth startTree 2).isOk = true := by decide +kernel
  obtain ⟨width, hwidth⟩ := exists_of_isOk hcolumns
  have hsaves : Saves {} document := by
    refine saves_of_leads_standard rfl rfl fun d htree =>
      exists_leads_mapM (f := Setting.block {}) ?_
    simp only [document, List.forall_mem_cons, List.not_mem_nil, IsEmpty.forall_iff, implies_true,
      and_true]
    refine ⟨exists_leads_block ?_ fun pss => ?_, exists_leads_block ?_ fun pss => ?_,
      exists_leads_block ?_ fun pss => ?_⟩
    · simp only [rowsOf, List.forall_mem_singleton]
      exact hcell d "t" (by simp)
    · exact ⟨pss.flatten, by simp [Setting.assembled, htree, hbody]⟩
    · rw [rowsOf, if_neg (by decide)]
      simp only [grid, List.map_cons, List.map_nil, List.forall_mem_cons, List.not_mem_nil,
        IsEmpty.forall_iff, implies_true, and_true]
      exact ⟨hcell d "a" (by simp), hcell d "b" (by simp), hcell d "c" (by simp)⟩
    · rw [Setting.assembled, if_neg (by decide), htree, show grid.columnCount = 2 by decide, hwidth]
      exact ⟨_, rfl⟩
    · simp [rowsOf]
    · exact ⟨_, rfl⟩
  obtain ⟨bs, hbs⟩ := exists_toBytes_iff.2 hsaves
  obtain ⟨c, hc, hmirrored⟩ := (mirrored_of_saved {} document).1 bs hbs
  exact ⟨bs, c, hbs, hc, hmirrored⟩

end Docx

end Manuscript
