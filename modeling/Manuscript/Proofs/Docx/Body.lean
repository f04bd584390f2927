import Manuscript.Proofs.Docx.Steps

/-!
# How the body is put together

Only the paragraphs of a block take steps of writing. They are written in their order, row by row in
a table, and what they give is put together to the block without any further step
(`Setting.assembled`): what writing a block leads to is what writing its paragraphs leads to
(`leads_block`), and so for all blocks (`leads_blocks`). Put together, the paragraphs follow in the
order in which they were written, with an empty one for each cell that a row lacks
(`paragraphsIn_assembled`).
-/

namespace Manuscript.Docx

open Layout (Paragraph)

/-- The paragraphs of a block, in rows. -/
def rowsOf : Layout.Block → List (List Paragraph)
  | .paragraph p => [[p]]
  | .table t => if t.columnCount = 0 then [] else t.rows.map (·.cells)

/-- A row of a table of its paragraphs, filled up with empty cells. -/
def rowNode (columns : Nat) (width : String) (isHeader : Bool) (ps : List Xml.Node) : Xml.Node :=
  element "tr" [] ((if isHeader then [Setting.headerMark] else []) ++
    (ps ++ List.replicate (columns - ps.length) (element "p")).map (Setting.cell width))

/-- A table of the paragraphs of its rows. -/
def tableNode (columns : Nat) (width : String) (headerRows : Int) (properties : Xml.Node)
    (pss : List (List Xml.Node)) : Xml.Node :=
  element "tbl" [] ([properties,
    element "tblGrid" [] (List.replicate columns (element "gridCol" [("w", width)]))] ++
    pss.zipIdx.map fun ps => rowNode columns width ((ps.2 : Int) < headerRows) ps.1)

/-- The width of each column of a table, in twentieths of a point. -/
def columnWidth (tree : Xml.Node) (columns : Nat) : Except Fault Int := do
  Length.twentieths ((← textWidth tree).fdiv columns)

namespace Setting

/-- A block of its paragraphs, in a document with the given tree and styles. -/
def assembled (s : Setting) (tree : Xml.Node) (styles : Styles) (b : Layout.Block)
    (pss : List (List Xml.Node)) : Except Fault (List Xml.Node) :=
  match b with
  | .paragraph _ => if (body? tree).isNone then .error .noSuchAttribute else .ok pss.flatten
  | .table t => do
    if t.columnCount = 0 then return []
    let width ← columnWidth tree t.columnCount
    let properties ← s.tableProperties styles t.width
    return [tableNode t.columnCount (toString width) t.headerRows properties pss]

variable {s : Setting} {d d' : Draft}

/-- Steady steps give one result for each member. -/
theorem length_of_leads_mapM {f : α → Drafting β} (hf : ∀ a, Steady (f a)) {as : List α}
    {bs : List β} (h : Leads (as.mapM f) d bs d') : bs.length = as.length := by
  induction as generalizing d bs with
  | nil =>
    obtain ⟨rfl, rfl⟩ := leads_mapM_nil.1 h
    rfl
  | cons a as ih =>
    obtain ⟨b, d₁, bs', -, hbs, rfl⟩ := (leads_mapM_cons hf).1 h
    exact congrArg Nat.succ (ih hbs)

/-- Where each step of a list is another one and something more that the draft has no part in, so is
    the list. -/
theorem leads_mapM_map {f : α → Drafting γ} {g : α → Drafting β} {h : α → β → γ}
    (hf : ∀ a, Steady (f a)) (hg : ∀ a, Steady (g a)) {as : List α}
    (hfg : ∀ a ∈ as, ∀ d c d', Leads (f a) d c d' ↔ ∃ b, Leads (g a) d b d' ∧ c = h a b)
    {cs : List γ} :
    Leads (as.mapM f) d cs d' ↔ ∃ bs, Leads (as.mapM g) d bs d' ∧ cs = List.zipWith h as bs := by
  induction as generalizing d cs with
  | nil =>
    rw [leads_mapM_nil]
    constructor
    · rintro ⟨rfl, rfl⟩
      exact ⟨[], leads_pure _ _, rfl⟩
    · rintro ⟨bs, hbs, rfl⟩
      exact ⟨rfl, (leads_mapM_nil.1 hbs).2⟩
  | cons a as ih =>
    have has := fun a' ha' => hfg a' (List.mem_cons_of_mem a ha')
    rw [leads_mapM_cons hf]
    constructor
    · rintro ⟨c, d₁, cs', hc, hcs, rfl⟩
      obtain ⟨b, hb, rfl⟩ := (hfg a List.mem_cons_self d c d₁).1 hc
      obtain ⟨bs, hbs, rfl⟩ := (ih has).1 hcs
      exact ⟨b :: bs, (leads_mapM_cons hg).2 ⟨b, d₁, bs, hb, hbs, rfl⟩, rfl⟩
    · rintro ⟨_, hall, rfl⟩
      obtain ⟨b, d₁, bs, hb, hbs, rfl⟩ := (leads_mapM_cons hg).1 hall
      exact ⟨_, d₁, _, (hfg a List.mem_cons_self d _ d₁).2 ⟨b, hb, rfl⟩, (ih has).2 ⟨bs, hbs, rfl⟩,
        rfl⟩

/-- A paragraph is written if its properties can be, and the text of its runs is. -/
theorem leads_paragraph {p : Paragraph} {n : Xml.Node} :
    Leads (s.paragraph p) d n d' ↔ ∃ ps ns, Paragraph.properties d.styles p = .ok ps ∧
      Leads (s.text p.runs) d ns d' ∧ n = element "p" [] (ps ++ ns) := by
  rw [paragraph, leads_get_bind, leads_ofFault_bind]
  refine exists_congr fun ps => ?_
  rw [(s.steady_text p.runs).leads_bind fun _ => steady_pure _]
  constructor
  · rintro ⟨hps, ns, d₁, hns, h⟩
    obtain ⟨rfl, rfl⟩ := leads_pure_iff.1 h
    exact ⟨ns, hps, hns, rfl⟩
  · rintro ⟨ns, hps, hns, rfl⟩
    exact ⟨hps, ns, d', hns, leads_pure _ _⟩

/-- A row is written if the paragraphs in its cells are. -/
theorem leads_row {columns : Nat} {width : String} {isHeader : Bool} {cells : List Paragraph}
    {n : Xml.Node} :
    Leads (s.row columns width isHeader cells) d n d' ↔
      ∃ ps, Leads (cells.mapM s.paragraph) d ps d' ∧ n = rowNode columns width isHeader ps := by
  rw [row, (steady_mapM s.steady_paragraph cells).leads_bind fun _ => steady_pure _]
  refine exists_congr fun ps => ?_
  constructor
  · rintro ⟨d₁, hps, h⟩
    obtain ⟨rfl, rfl⟩ := leads_pure_iff.1 h
    rw [← length_of_leads_mapM s.steady_paragraph hps]
    exact ⟨hps, rfl⟩
  · rintro ⟨hps, rfl⟩
    refine ⟨d', hps, ?_⟩
    rw [← length_of_leads_mapM s.steady_paragraph hps]
    exact leads_pure _ _

/-- Writes paragraphs that stand in rows. -/
def grid (s : Setting) (rows : List (List Paragraph)) : Drafting (List (List Xml.Node)) :=
  rows.mapM fun cells => cells.mapM s.paragraph

/-- The paragraphs of a grid are written without looking at what is there. -/
theorem steady_grid (s : Setting) (rows : List (List Paragraph)) : Steady (s.grid rows) :=
  steady_mapM (fun cells => steady_mapM s.steady_paragraph cells) rows

theorem zipWith_zipIdx {f : Nat → β → γ} {as : List α} {bs : List β} (h : as.length = bs.length)
    (start : Nat) : List.zipWith (fun a b => f a.2 b) (as.zipIdx start) bs =
      (bs.zipIdx start).map fun b => f b.2 b.1 := by
  induction as generalizing bs start with
  | nil => rw [List.eq_nil_of_length_eq_zero h.symm]; rfl
  | cons a as ih =>
    cases bs with
    | nil => cases h
    | cons b bs => simpa using ih (Nat.succ.inj h) (start + 1)

/-- The rows of a table are written if the grid of their paragraphs is. -/
theorem leads_rows {t : Layout.Table} {width : String} {ns : List Xml.Node} :
    Leads (t.rows.zipIdx.mapM fun r =>
      s.row t.columnCount width ((r.2 : Int) < t.headerRows) r.1.cells) d ns d' ↔
    ∃ pss, Leads (s.grid (t.rows.map (·.cells))) d pss d' ∧ ns = pss.zipIdx.map fun ps =>
      rowNode t.columnCount width ((ps.2 : Int) < t.headerRows) ps.1 := by
  have hmap : t.rows.zipIdx.mapM (fun r => r.1.cells.mapM s.paragraph) =
      s.grid (t.rows.map (·.cells)) := by
    rw [grid, ← List.zipIdx_map_fst 0 t.rows, List.map_map, List.mapM_map, List.zipIdx_map_fst]
    rfl
  rw [leads_mapM_map (fun r => s.steady_row _ _ _ _)
    (fun r : Layout.Row × Nat => steady_mapM s.steady_paragraph r.1.cells)
    (fun _ _ _ _ _ => leads_row), hmap]
  refine exists_congr fun pss => and_congr_right fun hpss => ?_
  have hlength : t.rows.length = pss.length := by
    rw [length_of_leads_mapM (fun cells => steady_mapM s.steady_paragraph cells) hpss,
      List.length_map]
  rw [zipWith_zipIdx (f := fun i ps => rowNode t.columnCount width ((i : Int) < t.headerRows) ps)
    hlength]

/-- A table is written if the grid of its paragraphs is, and its frame can be put around them. -/
theorem leads_table {t : Layout.Table} {ns : List Xml.Node} :
    Leads (s.table t) d ns d' ↔ ∃ pss, Leads (s.grid (rowsOf (.table t))) d pss d' ∧
      s.assembled d.tree d.styles (.table t) pss = .ok ns := by
  simp only [table, assembled, rowsOf]
  split
  · rw [leads_pure_iff]
    constructor
    · rintro ⟨rfl, rfl⟩
      exact ⟨[], leads_pure _ _, rfl⟩
    · rintro ⟨pss, hpss, h⟩
      cases h
      exact ⟨rfl, (leads_mapM_nil.1 hpss).2⟩
  · rw [leads_get_bind, leads_ofFault_bind]
    constructor
    · rintro ⟨width, hwidth, h⟩
      obtain ⟨properties, hproperties, h⟩ := leads_ofFault_bind.1 h
      rw [(steady_mapM (fun r => s.steady_row _ _ _ _) _).leads_bind fun _ => steady_pure _] at h
      obtain ⟨rows, d₁, hrows, h⟩ := h
      obtain ⟨rfl, rfl⟩ := leads_pure_iff.1 h
      obtain ⟨pss, hpss, rfl⟩ := leads_rows.1 hrows
      refine ⟨pss, hpss, ?_⟩
      rw [show columnWidth d.tree t.columnCount = .ok width from hwidth, hproperties]
      rfl
    · rintro ⟨pss, hpss, h⟩
      obtain ⟨width, hwidth, h⟩ := ok_of_bind h
      obtain ⟨properties, hproperties, h⟩ := ok_of_bind h
      cases h
      refine ⟨width, hwidth, leads_ofFault_bind.2 ⟨properties, hproperties, ?_⟩⟩
      exact (leads_rows.2 ⟨pss, hpss, rfl⟩).bind (leads_pure _ _)

/-- A single paragraph is a grid of one cell. -/
theorem leads_grid_single {p : Paragraph} {pss : List (List Xml.Node)} :
    Leads (s.grid [[p]]) d pss d' ↔ ∃ n, Leads (s.paragraph p) d n d' ∧ pss = [[n]] := by
  have hrow (cells : List Paragraph) : Steady (cells.mapM s.paragraph) :=
    steady_mapM s.steady_paragraph cells
  constructor
  · intro h
    obtain ⟨ps, d₁, _, hps, hnil, rfl⟩ := (leads_mapM_cons hrow).1 h
    obtain ⟨rfl, rfl⟩ := leads_mapM_nil.1 hnil
    obtain ⟨n, d₂, _, hn, hnil, rfl⟩ := (leads_mapM_cons s.steady_paragraph).1 hps
    obtain ⟨rfl, rfl⟩ := leads_mapM_nil.1 hnil
    exact ⟨n, hn, rfl⟩
  · rintro ⟨n, hn, rfl⟩
    have hps : Leads ([p].mapM s.paragraph) d [n] d' :=
      (leads_mapM_cons s.steady_paragraph).2 ⟨n, d', [], hn, leads_pure _ _, rfl⟩
    exact (leads_mapM_cons hrow).2 ⟨[n], d', [], hps, leads_pure _ _, rfl⟩

/-- What writing a block leads to is put together from what writing its paragraphs leads to. -/
theorem leads_block {b : Layout.Block} {ns : List Xml.Node} :
    Leads (s.block b) d ns d' ↔ ∃ pss, Leads (s.grid (rowsOf b)) d pss d' ∧
      s.assembled d.tree d.styles b pss = .ok ns := by
  cases b with
  | table t => exact leads_table
  | paragraph p =>
    simp only [block, assembled, rowsOf]
    rw [leads_get_bind]
    split
    · rw [leads_ofFault_bind]
      simp
    · refine ((s.steady_paragraph p).leads_bind fun _ => steady_pure _).trans ?_
      constructor
      · rintro ⟨n, d₁, hn, h⟩
        obtain ⟨rfl, rfl⟩ := leads_pure_iff.1 h
        exact ⟨[[n]], leads_grid_single.2 ⟨n, hn, rfl⟩, rfl⟩
      · rintro ⟨_, hpss, h⟩
        obtain ⟨n, hn, rfl⟩ := leads_grid_single.1 hpss
        cases h
        exact ⟨n, d', hn, leads_pure _ _⟩

/-- Blocks of their paragraphs, in a document with the given tree and styles. -/
def assembledAll (s : Setting) (tree : Xml.Node) (styles : Styles) (bs : List Layout.Block)
    (psss : List (List (List Xml.Node))) : Except Fault (List (List Xml.Node)) :=
  (bs.zip psss).mapM fun b => s.assembled tree styles b.1 b.2

/-- What writing blocks leads to is put together from what writing their paragraphs leads to. -/
theorem leads_blocks {bs : List Layout.Block} {nss : List (List Xml.Node)} :
    Leads (bs.mapM s.block) d nss d' ↔ ∃ psss, Leads ((bs.map rowsOf).mapM s.grid) d psss d' ∧
      s.assembledAll d.tree d.styles bs psss = .ok nss := by
  induction bs generalizing d nss with
  | nil =>
    constructor
    · intro h
      obtain ⟨rfl, rfl⟩ := leads_mapM_nil.1 h
      exact ⟨[], leads_pure _ _, rfl⟩
    · rintro ⟨psss, hpsss, h⟩
      cases h
      obtain ⟨-, rfl⟩ := leads_mapM_nil.1 hpsss
      exact leads_pure _ _
  | cons b bs ih =>
    rw [leads_mapM_cons s.steady_block, List.map_cons]
    constructor
    · rintro ⟨ns, d₁, nss', hns, hnss, rfl⟩
      have hgrows := (s.steady_block b).grows hns.mayLead
      obtain ⟨pss, hpss, hassembled⟩ := leads_block.1 hns
      obtain ⟨psss, hpsss, hall⟩ := ih.1 hnss
      refine ⟨pss :: psss, (leads_mapM_cons s.steady_grid).2 ⟨pss, d₁, psss, hpss, hpsss, rfl⟩, ?_⟩
      -- The first block has left the tree and the styles as they were.
      rw [hgrows.tree, hgrows.styles] at hall
      rw [assembledAll, List.zip_cons_cons, List.mapM_cons, hassembled]
      rw [assembledAll] at hall
      rw [hall]
      rfl
    · rintro ⟨_, hall, h⟩
      obtain ⟨pss, d₁, psss, hpss, hpsss, rfl⟩ := (leads_mapM_cons s.steady_grid).1 hall
      have hgrows := (s.steady_grid _).grows hpss.mayLead
      rw [assembledAll, List.zip_cons_cons, List.mapM_cons] at h
      obtain ⟨ns, hns, h⟩ := ok_of_bind h
      obtain ⟨nss', hnss, h⟩ := ok_of_bind h
      cases h
      rw [← hgrows.tree, ← hgrows.styles] at hnss
      exact ⟨ns, d₁, nss', leads_block.2 ⟨pss, hpss, hns⟩, ih.2 ⟨psss, hpsss, hnss⟩, rfl⟩

end Setting

/-! ## The whole document -/

section written

variable {s : Setting} {document : Layout.Document} {nss : List (List Xml.Node)} {d' : Draft}

/-- The draft that the blocks of a document are written into: that of the template, with the font
    and the properties set. -/
def Setting.Prepares (s : Setting) (m : Metadata) (d : Draft) : Prop :=
  ∃ c main, openTemplate s.files s.options = .ok (c, main) ∧
    Draft.start c main >>= prepare s.options m = .ok d

/-- A document is written if it can be prepared and its blocks are written. -/
theorem gives_written {d : Draft} (hd : s.Prepares document.metadata d)
    (h : Leads (document.blocks.mapM s.block) d nss d') : (written s document).Gives (nss, d') := by
  obtain ⟨c, main, hopen, hd⟩ := hd
  refine (Job.gives_of_ok hopen).bind (gives_explaining ?_ _)
  exact (Job.gives_ofFault hd).bind h

/-- A document that may be written has been prepared, and its blocks have been written. -/
theorem leads_of_mayGive_written (h : (written s document).MayGive (nss, d')) :
    ∃ d, s.Prepares document.metadata d ∧ Leads (document.blocks.mapM s.block) d nss d' := by
  obtain ⟨⟨c, main⟩, hopen, h⟩ := Job.MayGive.of_bind h
  obtain ⟨d, hd, h⟩ := Job.MayGive.of_bind (mayGive_of_explaining h)
  refine ⟨d, ⟨c, main, Job.mayGive_of.1 hopen, Job.mayGive_ofFault.1 hd⟩, ?_⟩
  exact (steady_mapM s.steady_block _).leads h

end written

/-! ## The paragraphs of what is written -/

mutual

/-- The paragraphs of a tree, those in the cells of tables among them. -/
def paragraphsIn : Xml.Node → List Xml.Node
  | .text _ => []
  | .element name attributes children =>
    if name.same (w "p") then [.element name attributes children] else paragraphsInList children

/-- The paragraphs of some trees. -/
def paragraphsInList : List Xml.Node → List Xml.Node
  | [] => []
  | n :: ns => paragraphsIn n ++ paragraphsInList ns

end

theorem paragraphsInList_append (ns ns' : List Xml.Node) :
    paragraphsInList (ns ++ ns') = paragraphsInList ns ++ paragraphsInList ns' := by
  induction ns with
  | nil => rfl
  | cons n ns ih => rw [List.cons_append, paragraphsInList, ih, paragraphsInList, List.append_assoc]

/-- A paragraph is the one paragraph in it. -/
theorem paragraphsIn_of_isNamed {n : Xml.Node} (h : n.isNamed (w "p") = true) :
    paragraphsIn n = [n] := by
  cases n with
  | text s => cases h
  | element name attributes children =>
    rw [Xml.Node.isNamed] at h
    rw [paragraphsIn, if_pos h]

theorem paragraphsInList_of_isNamed {ns : List Xml.Node}
    (h : ∀ n ∈ ns, n.isNamed (w "p") = true) : paragraphsInList ns = ns := by
  induction ns with
  | nil => rfl
  | cons n ns ih =>
    rw [List.forall_mem_cons] at h
    rw [paragraphsInList, paragraphsIn_of_isNamed h.1, ih h.2]
    rfl

/-- The paragraphs in an element of another name are those in what it holds. -/
theorem paragraphsIn_element {word : String} (h : (w word).same (w "p") = false)
    (attributes : List (String × String)) (children : List Xml.Node) :
    paragraphsIn (element word attributes children) = paragraphsInList children := by
  rw [element, paragraphsIn, if_neg (by simp [h])]

/-- A cell holds the paragraph that is put into it. -/
theorem paragraphsIn_cell (width : String) (n : Xml.Node) :
    paragraphsIn (Setting.cell width n) = paragraphsIn n := by
  rw [Setting.cell, paragraphsIn_element (by decide)]
  simp only [paragraphsInList, List.append_nil]
  rfl

theorem paragraphsInList_map_cell (width : String) (ns : List Xml.Node) :
    paragraphsInList (ns.map (Setting.cell width)) = paragraphsInList ns := by
  induction ns with
  | nil => rfl
  | cons n ns ih =>
    rw [List.map_cons, paragraphsInList, ih, paragraphsIn_cell, paragraphsInList]

/-- The paragraphs of a row of a table, with an empty one for each cell that it lacks. -/
def filledRow (columns : Nat) (ps : List Xml.Node) : List Xml.Node :=
  ps ++ List.replicate (columns - ps.length) (element "p")

/-- A row holds the paragraphs of its cells, and empty ones in the cells that it is filled up with.
    -/
theorem paragraphsIn_rowNode {columns : Nat} {ps : List Xml.Node}
    (h : ∀ n ∈ ps, n.isNamed (w "p") = true) (width : String) (isHeader : Bool) :
    paragraphsIn (rowNode columns width isHeader ps) = filledRow columns ps := by
  have hmark : paragraphsInList (if isHeader then [Setting.headerMark] else []) = [] := by
    cases isHeader <;> decide
  have hempty : ∀ n ∈ List.replicate (columns - ps.length) (element "p"),
      n.isNamed (w "p") = true := by
    intro n hn
    rw [List.eq_of_mem_replicate hn]
    decide
  rw [rowNode, paragraphsIn_element (by decide), paragraphsInList_append, hmark,
    paragraphsInList_map_cell, paragraphsInList_append, paragraphsInList_of_isNamed h,
    paragraphsInList_of_isNamed hempty]
  rfl

/-- There is no paragraph in the properties of a table. -/
theorem paragraphsIn_tableProperties {s : Setting} {styles : Styles} {width : Number}
    {n : Xml.Node} (h : s.tableProperties styles width = .ok n) : paragraphsIn n = [] := by
  rw [Setting.tableProperties] at h
  split at h
  all_goals
    obtain ⟨style, -, h⟩ := ok_of_bind h
    cases h
    rw [paragraphsIn_element (by decide), paragraphsInList_append]
    rcases style.join with _ | id <;> rfl

/-- A table holds the paragraphs of its rows, row by row. -/
theorem paragraphsIn_tableNode {columns : Nat} {properties : Xml.Node}
    (hproperties : paragraphsIn properties = []) {pss : List (List Xml.Node)}
    (h : ∀ ps ∈ pss, ∀ n ∈ ps, n.isNamed (w "p") = true) (width : String) (headerRows : Int) :
    paragraphsIn (tableNode columns width headerRows properties pss) =
      pss.flatMap (filledRow columns) := by
  have hgrid : paragraphsIn (element "tblGrid" []
      (List.replicate columns (element "gridCol" [("w", width)]))) = [] := by
    rw [paragraphsIn_element (by decide)]
    induction columns with
    | zero => rfl
    | succ columns ih =>
      rw [List.replicate_succ, paragraphsInList, ih]
      rfl
  have hrows (start : Nat) :
      paragraphsInList ((pss.zipIdx start).map fun ps =>
        rowNode columns width ((ps.2 : Int) < headerRows) ps.1) =
      pss.flatMap (filledRow columns) := by
    induction pss generalizing start with
    | nil => rfl
    | cons ps pss ih =>
      rw [List.forall_mem_cons] at h
      rw [List.zipIdx_cons, List.map_cons, paragraphsInList, ih h.2, paragraphsIn_rowNode h.1,
        List.flatMap_cons]
  rw [tableNode, paragraphsIn_element (by decide), paragraphsInList_append, hrows]
  simp only [paragraphsInList, hproperties, hgrid]
  rfl

/-- The paragraphs of a block that is put together of its own: there is an empty one for each cell
    that a row lacks. -/
def filled (b : Layout.Block) (pss : List (List Xml.Node)) : List Xml.Node :=
  match b with
  | .paragraph _ => pss.flatten
  | .table t => if t.columnCount = 0 then [] else pss.flatMap (filledRow t.columnCount)

/-- What is put together of a block holds its paragraphs and those that it is filled up with. -/
theorem paragraphsIn_assembled {s : Setting} {tree : Xml.Node} {styles : Styles}
    {b : Layout.Block} {pss : List (List Xml.Node)} {ns : List Xml.Node}
    (h : s.assembled tree styles b pss = .ok ns)
    (hps : ∀ ps ∈ pss, ∀ n ∈ ps, n.isNamed (w "p") = true) :
    paragraphsInList ns = filled b pss := by
  cases b with
  | paragraph p =>
    simp only [Setting.assembled] at h
    split at h
    · cases h
    · cases h
      refine paragraphsInList_of_isNamed fun n hn => ?_
      obtain ⟨ps, hmem, hn⟩ := List.mem_flatten.1 hn
      exact hps ps hmem n hn
  | table t =>
    simp only [Setting.assembled] at h
    rw [filled]
    split at h
    · cases h
      rw [if_pos ‹_›]
      rfl
    · -- The properties of a table hold no paragraphs, so all are those of its cells.
      obtain ⟨width, -, h⟩ := ok_of_bind h
      obtain ⟨properties, hproperties, h⟩ := ok_of_bind h
      cases h
      rw [if_neg ‹_›, paragraphsInList, paragraphsInList, List.append_nil,
        paragraphsIn_tableNode (paragraphsIn_tableProperties hproperties) hps]

/-- What is put together of all blocks holds their paragraphs, one block after another. -/
theorem paragraphsIn_assembledAll {s : Setting} {tree : Xml.Node} {styles : Styles}
    {bs : List Layout.Block} {psss : List (List (List Xml.Node))} {nss : List (List Xml.Node)}
    (h : s.assembledAll tree styles bs psss = .ok nss)
    (hps : ∀ pss ∈ psss, ∀ ps ∈ pss, ∀ n ∈ ps, n.isNamed (w "p") = true) :
    paragraphsInList nss.flatten = (List.zipWith filled bs psss).flatten := by
  induction bs generalizing psss nss with
  | nil =>
    cases h
    rfl
  | cons b bs ih =>
    cases psss with
    | nil =>
      cases h
      rfl
    | cons pss psss =>
      rw [Setting.assembledAll, List.zip_cons_cons, List.mapM_cons] at h
      obtain ⟨ns, hns, h⟩ := ok_of_bind h
      obtain ⟨nss', hnss, h⟩ := ok_of_bind h
      cases h
      rw [List.forall_mem_cons] at hps
      rw [List.flatten_cons, paragraphsInList_append, paragraphsIn_assembled hns hps.1,
        ih hnss hps.2, List.zipWith_cons_cons, List.flatten_cons]

end Manuscript.Docx
