import Manuscript.Proofs.Docx.Body
import Manuscript.Proofs.Layout.Table

/-!
# Writing one document as another

A step *follows* another one if, from related drafts, it leads to a related result whenever that
one leads to any (`Follows`). Where texts are written one as the other, so are paragraphs, tables
and blocks (`follows_blocks`): nothing but the text of paragraphs depends on runs. What holds of the
text of each paragraph holds of the paragraphs that are written (`forall₂_slots_of_leads`).
-/

namespace Manuscript

/-! ## Documents with other runs -/

namespace Layout

variable (f : Run → Run)

/-- A paragraph with other runs. -/
def Paragraph.mapRuns (p : Paragraph) : Paragraph :=
  { p with runs := p.runs.map f }

/-- A block with other runs. -/
def Block.mapRuns : Block → Block
  | .paragraph p => .paragraph (p.mapRuns f)
  | .table t => .table { t with rows := t.rows.map fun r => ⟨r.cells.map (·.mapRuns f)⟩ }

/-- A document with other runs. -/
def Document.mapRuns (d : Document) : Document :=
  { d with blocks := d.blocks.map (·.mapRuns f) }

theorem map_mapRuns_id (bs : List Block) : bs.map (·.mapRuns id) = bs := by
  have hparagraph (p : Paragraph) : p.mapRuns id = p := by
    rw [Paragraph.mapRuns, List.map_id]
  have hblock (b : Block) : b.mapRuns id = b := by
    cases b with
    | paragraph p => exact congrArg _ (hparagraph p)
    | table t => simp [Block.mapRuns, hparagraph]
  simp [hblock]

end Layout

namespace Docx

open Layout (Paragraph Document)

/-! ## Following -/

/-- From related drafts, `y` leads to a related result whenever `x` leads to one. -/
def Follows (P : Draft → Draft → Prop) (Q : Draft → Draft → α → β → Prop) (x : Drafting α)
    (y : Drafting β) : Prop :=
  ∀ ⦃d e a d'⦄, P d e → Leads x d a d' → ∃ b e', Leads y e b e' ∧ P d' e' ∧ Q d' e' a b

/-- A relation that lasts when the drafts that it is about grow. -/
def Lasting (Q : Draft → Draft → α → β → Prop) : Prop :=
  ∀ ⦃d e d' e' a b⦄, d.Grows d' → e.Grows e' → Q d e a b → Q d' e' a b

theorem lasting_true : Lasting fun (_ _ : Draft) (_ : α) (_ : β) => True :=
  fun _ _ _ _ _ _ _ _ _ => trivial

/-- What lasts of each member lasts of a list. -/
theorem Lasting.forall₂ {Q : Draft → Draft → α → β → Prop} (hQ : Lasting Q) :
    Lasting fun d e as bs => List.Forall₂ (Q d e) as bs :=
  fun _ _ _ _ _ _ hd he h => h.imp fun _ _ => hQ hd he

/-- Loops follow each other if their steps do. -/
theorem follows_mapM {P : Draft → Draft → Prop} {Q : Draft → Draft → α → β → Prop}
    (hQ : Lasting Q) {f : ι → Drafting α} {g : κ → Drafting β} (hf : ∀ i, Steady (f i))
    (hg : ∀ k, Steady (g k)) {is : List ι} {ks : List κ}
    (h : List.Forall₂ (fun i k => Follows P Q (f i) (g k)) is ks) :
    Follows P (fun d e as bs => List.Forall₂ (Q d e) as bs) (is.mapM f) (ks.mapM g) := by
  induction h with
  | nil =>
    intro d e as d' hP hlead
    obtain ⟨rfl, rfl⟩ := leads_mapM_nil.1 hlead
    exact ⟨[], e, leads_pure _ _, hP, .nil⟩
  | @cons i k is ks hik _ ih =>
    intro d e as d'' hP hlead
    obtain ⟨a, d', as', ha, has, rfl⟩ := (leads_mapM_cons hf).1 hlead
    obtain ⟨b, e', hb, hP', hab⟩ := hik hP ha
    obtain ⟨bs, e'', hbs, hP'', habs⟩ := ih hP' has
    refine ⟨b :: bs, e'', (leads_mapM_cons hg).2 ⟨b, e', bs, hb, hbs, rfl⟩, hP'', ?_⟩
    have hd := (steady_mapM hf is).grows has.mayLead
    have he := (steady_mapM hg ks).grows hbs.mayLead
    exact .cons (hQ hd he hab) habs

/-- What each step of a list leads to, when the draft has grown by then, still stands after the
    others, if it lasts. -/
theorem forall₂_of_grows_mapM {R : Draft → α → β → Prop}
    (hR : ∀ ⦃d d' a b⦄, Draft.Grows d d' → R d a b → R d' a b) {f : α → Drafting β}
    (hf : ∀ a, Steady (f a)) {as : List α} {d d' : Draft} {bs : List β}
    (h : ∀ a ∈ as, ∀ ⦃e b e'⦄, d.Grows e → Leads (f a) e b e' → R e' a b)
    (hlead : Leads (as.mapM f) d bs d') : List.Forall₂ (R d') as bs := by
  induction as generalizing d bs with
  | nil =>
    obtain ⟨rfl, rfl⟩ := leads_mapM_nil.1 hlead
    exact .nil
  | cons a as ih =>
    obtain ⟨b, d₁, bs', hb, hbs, rfl⟩ := (leads_mapM_cons hf).1 hlead
    -- What the first step has led to lasts while the others are taken.
    have hd := (steady_mapM hf as).grows hbs.mayLead
    have hd₁ := (hf a).grows hb.mayLead
    rw [List.forall_mem_cons] at h
    refine .cons (hR hd (h.1 (.refl d) hb)) (ih (fun a' ha' e b' e' he => ?_) hbs)
    exact h.2 a' ha' (hd₁.trans he)

/-- What each step of a list leads to still stands after the others, if it lasts. -/
theorem forall₂_of_leads_mapM {R : Draft → α → β → Prop}
    (hR : ∀ ⦃d d' a b⦄, Draft.Grows d d' → R d a b → R d' a b) {f : α → Drafting β}
    (hf : ∀ a, Steady (f a)) {as : List α}
    (h : ∀ a ∈ as, ∀ ⦃d b d'⦄, Relationship.Distinct d.main.relationships → Leads (f a) d b d' →
      R d' a b)
    {d d' : Draft} {bs : List β} (hids : Relationship.Distinct d.main.relationships)
    (hlead : Leads (as.mapM f) d bs d') : List.Forall₂ (R d') as bs :=
  forall₂_of_grows_mapM hR hf (fun a ha _ _ _ he => h a ha (he.distinct hids)) hlead

/-! ## From texts to documents -/

section

variable {s t : Setting} {f g : Layout.Run → Layout.Run}

/-- Paragraphs of the same properties with related texts. -/
def RelatedParagraphs (Q : Draft → Draft → List Xml.Node → List Xml.Node → Prop) (d e : Draft)
    (n m : Xml.Node) : Prop :=
  ∃ ps ns ms, n = element "p" [] (ps ++ ns) ∧ m = element "p" [] (ps ++ ms) ∧ Q d e ns ms

variable {P : Draft → Draft → Prop} {Q : Draft → Draft → List Xml.Node → List Xml.Node → Prop}

/-- Paragraphs that are related stay so. -/
theorem Lasting.relatedParagraphs (hQ : Lasting Q) : Lasting (RelatedParagraphs Q) := by
  rintro d e d' e' n m hd he ⟨ps, ns, ms, rfl, rfl, h⟩
  exact ⟨ps, ns, ms, rfl, rfl, hQ hd he h⟩

/-- Paragraphs follow each other if the texts of their runs do. -/
theorem follows_paragraph (hP : ∀ d e, P d e → e.styles = d.styles) {p : Paragraph}
    (h : Follows P Q (s.text (p.runs.map f)) (t.text (p.runs.map g))) :
    Follows P (RelatedParagraphs Q) (s.paragraph (p.mapRuns f)) (t.paragraph (p.mapRuns g)) := by
  intro d e n d' hde hn
  obtain ⟨ps, ns, hps, hns, rfl⟩ := Setting.leads_paragraph.1 hn
  obtain ⟨ms, e', hms, hP', hQ⟩ := h hde hns
  refine ⟨element "p" [] (ps ++ ms), e', ?_, hP', ps, ns, ms, rfl, rfl, hQ⟩
  exact Setting.leads_paragraph.2 ⟨ps, ms, by rw [hP d e hde]; exact hps, hms, rfl⟩

/-- Changing runs changes no number of columns. -/
theorem columnCount_mapRuns (f : Layout.Run → Layout.Run) (t : Layout.Table) :
    Layout.Table.columnCount { t with rows := t.rows.map fun r => ⟨r.cells.map (·.mapRuns f)⟩ } =
      t.columnCount := by
  simp [Layout.Table.columnCount, Function.comp_def]

/-- Changing runs changes them in each row. -/
theorem rowsOf_mapRuns (f : Layout.Run → Layout.Run) (b : Layout.Block) :
    rowsOf (b.mapRuns f) = (rowsOf b).map (List.map (·.mapRuns f)) := by
  cases b with
  | paragraph p => rfl
  | table t =>
    rw [Layout.Block.mapRuns, rowsOf, rowsOf, columnCount_mapRuns]
    split
    · rfl
    · simp

/-- Whether a block can be put together does not depend on its runs. -/
theorem assembled_mapRuns (htable : t.options.tableStyle = s.options.tableStyle)
    {tree : Xml.Node} {styles : Styles} {b : Layout.Block} {pss : List (List Xml.Node)}
    {ns : List Xml.Node} (h : s.assembled tree styles (b.mapRuns f) pss = .ok ns)
    (g : Layout.Run → Layout.Run) (pss' : List (List Xml.Node)) :
    ∃ ns', t.assembled tree styles (b.mapRuns g) pss' = .ok ns' := by
  cases b with
  | paragraph p =>
    simp only [Layout.Block.mapRuns, Setting.assembled] at h ⊢
    split at h
    · cases h
    · exact ⟨_, if_neg ‹_›⟩
  | table u =>
    simp only [Layout.Block.mapRuns, Setting.assembled, columnCount_mapRuns] at h ⊢
    split at h
    · exact ⟨[], if_pos ‹_›⟩
    · obtain ⟨width, hwidth, h⟩ := ok_of_bind h
      obtain ⟨properties, hproperties, h⟩ := ok_of_bind h
      have hsame : t.tableProperties styles u.width = .ok properties := by
        rw [← hproperties]
        simp only [Setting.tableProperties, htable]
      rw [if_neg ‹_›, hwidth, hsame]
      exact ⟨_, rfl⟩

/-- What is put together of blocks does not hang on their runs. -/
theorem assembledAll_mapRuns (htable : t.options.tableStyle = s.options.tableStyle)
    {tree : Xml.Node} {styles : Styles} {bs : List Layout.Block}
    {psss psss' : List (List (List Xml.Node))} (hlength : psss'.length = psss.length)
    {nss : List (List Xml.Node)}
    (h : s.assembledAll tree styles (bs.map (·.mapRuns f)) psss = .ok nss)
    (g : Layout.Run → Layout.Run) :
    ∃ nss', t.assembledAll tree styles (bs.map (·.mapRuns g)) psss' = .ok nss' := by
  induction bs generalizing psss psss' nss with
  | nil => exact ⟨[], rfl⟩
  | cons b bs ih =>
    cases psss' with
    | nil => exact ⟨[], rfl⟩
    | cons pss' psss' =>
      cases psss with
      | nil => cases hlength
      | cons pss psss =>
        rw [List.map_cons, Setting.assembledAll, List.zip_cons_cons, List.mapM_cons] at h
        obtain ⟨ns, hns, h⟩ := ok_of_bind h
        obtain ⟨nss₁, hnss, -⟩ := ok_of_bind h
        obtain ⟨ns', hns'⟩ := assembled_mapRuns htable hns g pss'
        obtain ⟨nss', hnss'⟩ := ih (Nat.succ.inj hlength) hnss
        rw [Setting.assembledAll] at hnss'
        rw [List.map_cons, Setting.assembledAll, List.zip_cons_cons, List.mapM_cons, hns', hnss']
        exact ⟨_, rfl⟩

/-- Grids follow each other if the texts in their cells do. -/
theorem follows_grid (hP : ∀ d e, P d e → e.styles = d.styles) (hQ : Lasting Q)
    {rows : List (List Paragraph)}
    (h : ∀ cells ∈ rows, ∀ p ∈ cells,
      Follows P Q (s.text (p.runs.map f)) (t.text (p.runs.map g))) :
    Follows P (fun d e pss qss => List.Forall₂ (List.Forall₂ (RelatedParagraphs Q d e)) pss qss)
      (s.grid (rows.map (List.map (·.mapRuns f))))
      (t.grid (rows.map (List.map (·.mapRuns g)))) := by
  have hRelated := hQ.relatedParagraphs
  refine follows_mapM hRelated.forall₂ (fun cells => steady_mapM s.steady_paragraph cells)
    (fun cells => steady_mapM t.steady_paragraph cells) ?_
  rw [List.forall₂_map_right_iff, List.forall₂_map_left_iff, List.forall₂_same]
  intro cells hcells
  refine follows_mapM hRelated s.steady_paragraph t.steady_paragraph ?_
  rw [List.forall₂_map_right_iff, List.forall₂_map_left_iff, List.forall₂_same]
  exact fun p hp => follows_paragraph hP (h cells hcells p hp)

theorem forall_mem_of_forall₂ {R : α → β → Prop} {p : α → Prop} {q : β → Prop}
    (h : ∀ a b, R a b → p a ∧ q b) {as : List α} {bs : List β} (hR : List.Forall₂ R as bs) :
    (∀ a ∈ as, p a) ∧ ∀ b ∈ bs, q b := by
  induction hR with
  | nil => simp
  | cons hab _ ih =>
    rw [List.forall_mem_cons, List.forall_mem_cons]
    exact ⟨⟨(h _ _ hab).1, ih.1⟩, (h _ _ hab).2, ih.2⟩

/-- Paragraphs that are related are both named as such. -/
theorem isNamed_of_related {d e : Draft} {n m : Xml.Node} (h : RelatedParagraphs Q d e n m) :
    n.isNamed (w "p") = true ∧ m.isNamed (w "p") = true := by
  obtain ⟨ps, ns, ms, rfl, rfl, -⟩ := h
  exact ⟨isNamed_element .., isNamed_element ..⟩

theorem isNamed_of_relatedAll {d e : Draft} {psss qsss : List (List (List Xml.Node))}
    (h : List.Forall₂ (List.Forall₂ (List.Forall₂ (RelatedParagraphs Q d e))) psss qsss) :
    (∀ pss ∈ psss, ∀ ps ∈ pss, ∀ n ∈ ps, n.isNamed (w "p") = true) ∧
      ∀ pss ∈ qsss, ∀ ps ∈ pss, ∀ n ∈ ps, n.isNamed (w "p") = true := by
  refine forall_mem_of_forall₂ (fun pss qss h => ?_) h
  refine forall_mem_of_forall₂ (fun ps qs h => ?_) h
  exact forall_mem_of_forall₂ (fun _ _ h => isNamed_of_related h) h

/-- Related paragraphs stay so when empty ones are filled in. -/
theorem forall₂_filled {R : Xml.Node → Xml.Node → Prop} (hR : R (element "p") (element "p"))
    (b : Layout.Block) {pss qss : List (List Xml.Node)}
    (h : List.Forall₂ (List.Forall₂ R) pss qss) :
    List.Forall₂ R (filled (b.mapRuns f) pss) (filled (b.mapRuns g) qss) := by
  cases b with
  | paragraph p => exact List.rel_flatten h
  | table t =>
    rw [Layout.Block.mapRuns, Layout.Block.mapRuns, filled, filled, columnCount_mapRuns,
      columnCount_mapRuns]
    split
    · exact .nil
    · refine List.rel_flatMap h fun ps qs hpq => ?_
      rw [filledRow, filledRow, hpq.length_eq]
      refine List.rel_append hpq (List.forall₂_same.2 fun n hn => ?_)
      rwa [List.eq_of_mem_replicate hn]

/-- Grids that are related stay so when they are filled up. -/
theorem forall₂_filledAll {R : Xml.Node → Xml.Node → Prop} (hR : R (element "p") (element "p"))
    (bs : List Layout.Block) {psss qsss : List (List (List Xml.Node))}
    (h : List.Forall₂ (List.Forall₂ (List.Forall₂ R)) psss qsss) :
    List.Forall₂ R (List.zipWith filled (bs.map (·.mapRuns f)) psss).flatten
      (List.zipWith filled (bs.map (·.mapRuns g)) qsss).flatten := by
  induction h generalizing bs with
  | nil => cases bs <;> exact .nil
  | cons hpq _ ih =>
    cases bs with
    | nil => exact .nil
    | cons b bs => exact List.rel_append (forall₂_filled hR b hpq) (ih bs)

/-- The runs in the cells of a block are its own. -/
theorem mem_runs_of_rowsOf {b : Layout.Block} {cells : List Paragraph} (hcells : cells ∈ rowsOf b)
    {p : Paragraph} (hp : p ∈ cells) {r : Layout.Run} (hr : r ∈ p.runs) : r ∈ b.runs := by
  cases b with
  | paragraph q =>
    cases List.mem_singleton.1 hcells
    cases List.mem_singleton.1 hp
    exact hr
  | table t =>
    rw [rowsOf] at hcells
    split at hcells
    · cases hcells
    · obtain ⟨row, hrow, rfl⟩ := List.mem_map.1 hcells
      exact List.mem_flatMap.2 ⟨row, hrow, List.mem_flatMap.2 ⟨p, hp, hr⟩⟩

/-- Blocks with some runs are written as those with other ones, if their texts are. -/
theorem follows_blocks (hP : ∀ d e, P d e → e.tree = d.tree ∧ e.styles = d.styles)
    (hQ : Lasting Q) (hnil : ∀ d e, Q d e [] [])
    (htable : t.options.tableStyle = s.options.tableStyle) {bs : List Layout.Block}
    (h : ∀ rs : List Layout.Run, (∀ r ∈ rs, r ∈ bs.flatMap (·.runs)) →
      Follows P Q (s.text (rs.map f)) (t.text (rs.map g))) :
    Follows P (fun d e nss mss => List.Forall₂ (RelatedParagraphs Q d e)
        (paragraphsInList nss.flatten) (paragraphsInList mss.flatten))
      ((bs.map (·.mapRuns f)).mapM s.block) ((bs.map (·.mapRuns g)).mapM t.block) := by
  intro d e nss d' hde hlead
  obtain ⟨psss, hpsss, hall⟩ := Setting.leads_blocks.1 hlead
  have hstyles : ∀ d e, P d e → e.styles = d.styles := fun d e h => (hP d e h).2
  have hgrids : List.Forall₂ (fun rows rows' => Follows P
      (fun d e pss qss => List.Forall₂ (List.Forall₂ (RelatedParagraphs Q d e)) pss qss)
      (s.grid rows) (t.grid rows')) ((bs.map (·.mapRuns f)).map rowsOf)
      ((bs.map (·.mapRuns g)).map rowsOf) := by
    rw [List.map_map, List.map_map, List.forall₂_map_right_iff, List.forall₂_map_left_iff,
      List.forall₂_same]
    intro b hb
    rw [Function.comp, Function.comp, rowsOf_mapRuns, rowsOf_mapRuns]
    refine follows_grid hstyles hQ fun cells hcells p hp => h p.runs fun r hr => ?_
    exact List.mem_flatMap.2 ⟨b, hb, mem_runs_of_rowsOf hcells hp hr⟩
  obtain ⟨qsss, e', hqsss, hP', hrelated⟩ := follows_mapM hQ.relatedParagraphs.forall₂.forall₂
    s.steady_grid t.steady_grid hgrids hde hpsss
  obtain ⟨mss, hmss⟩ := assembledAll_mapRuns htable hrelated.length_eq.symm hall g
  refine ⟨mss, e', Setting.leads_blocks.2 ⟨qsss, hqsss, ?_⟩, hP', ?_⟩
  · rw [(hP d e hde).1, (hP d e hde).2]
    exact hmss
  · obtain ⟨hps, hqs⟩ := isNamed_of_relatedAll hrelated
    rw [paragraphsIn_assembledAll hall hps, paragraphsIn_assembledAll hmss hqs]
    exact forall₂_filledAll ⟨[], [], [], rfl, rfl, hnil d' e'⟩ bs hrelated

end

/-! ## The paragraphs of a document among those that are written -/

/-- The paragraphs that a block is written as: its own, and none for a cell that a row lacks. -/
def slotsOf : Layout.Block → List (Option Paragraph)
  | .paragraph p => [some p]
  | .table t => t.rows.flatMap fun row =>
    row.cells.map some ++ List.replicate (t.columnCount - row.cells.length) none

/-- Each run of a block stands in one of its slots. -/
theorem exists_slot_of_mem_runs {b : Layout.Block} {r : Layout.Run} (h : r ∈ b.runs) :
    ∃ p, some p ∈ slotsOf b ∧ r ∈ p.runs := by
  cases b with
  | paragraph p => exact ⟨p, List.mem_singleton_self _, h⟩
  | table t =>
    obtain ⟨row, hrow, h⟩ := List.mem_flatMap.1 h
    obtain ⟨p, hp, hr⟩ := List.mem_flatMap.1 h
    have hcell : some p ∈ row.cells.map some := List.mem_map_of_mem hp
    exact ⟨p, List.mem_flatMap.2 ⟨row, hrow, List.mem_append_left _ hcell⟩, hr⟩

/-- A paragraph has some node in its place; where there is none an empty one is written. -/
def InPlace (S : Paragraph → Xml.Node → Prop) : Option Paragraph → Xml.Node → Prop
  | some p, n => S p n
  | none, n => n = element "p"

/-- A paragraph is written as one whose text is shown in some way; where there is none an empty one
    is written. -/
def ShownAs (R : List Layout.Run → List Xml.Node → Prop) : Option Paragraph → Xml.Node → Prop
  | some p, n => ∃ ps ns, n = element "p" [] (ps ++ ns) ∧ R p.runs ns
  | none, n => n = element "p"

/-- The paragraphs of a row stand at its places when it is filled up. -/
theorem forall₂_filledRow {S : Paragraph → Xml.Node → Prop} {cells : List Paragraph}
    {ps : List Xml.Node} (h : List.Forall₂ S cells ps) (columns : Nat) :
    List.Forall₂ (InPlace S)
      (cells.map some ++ List.replicate (columns - cells.length) none) (filledRow columns ps) := by
  rw [filledRow, ← h.length_eq]
  have hcells : List.Forall₂ (InPlace S) (cells.map some) ps := List.forall₂_map_left_iff.2 h
  refine List.rel_append hcells ?_
  rw [List.forall₂_iff_get]
  simp [InPlace]

/-- The paragraphs of a block stand at the places of those that are filled in. -/
theorem forall₂_slotsOf {S : Paragraph → Xml.Node → Prop} {b : Layout.Block}
    {pss : List (List Xml.Node)} (h : List.Forall₂ (List.Forall₂ S) (rowsOf b) pss) :
    List.Forall₂ (InPlace S) (slotsOf b) (filled b pss) := by
  cases b with
  | paragraph p =>
    rw [slotsOf, filled]
    have hflat := List.rel_flatten h
    simp only [rowsOf, List.flatten_cons, List.flatten_nil, List.append_nil] at hflat
    obtain ⟨n, _, hn, hnil, heq⟩ := List.forall₂_cons_left_iff.1 hflat
    cases List.forall₂_nil_left_iff.1 hnil
    rw [heq]
    exact .cons hn .nil
  | table t =>
    rw [slotsOf, filled]
    rw [rowsOf] at h
    split at h
    -- A table without columns is not written; it has no cells that could be missed.
    · have hnone : t.rows.flatMap (fun row => row.cells.map some ++
          List.replicate (t.columnCount - row.cells.length) none) = [] := by
        refine List.flatMap_eq_nil_iff.2 fun row hrow => ?_
        have hle := Layout.Table.length_le_columnCount hrow
        have hcells : row.cells = [] := List.eq_nil_of_length_eq_zero (by omega)
        simp [hcells, ‹t.columnCount = 0›]
      rw [if_pos ‹_›, hnone]
      exact .nil
    · rw [if_neg ‹_›]
      rw [List.forall₂_map_left_iff] at h
      exact List.rel_flatMap h fun row ps hps => forall₂_filledRow hps _

/-- What is written for the cells of blocks stands in their slots. -/
theorem forall₂_slots {S : Paragraph → Xml.Node → Prop} {bs : List Layout.Block}
    {psss : List (List (List Xml.Node))}
    (h : List.Forall₂ (List.Forall₂ (List.Forall₂ S)) (bs.map rowsOf) psss) :
    List.Forall₂ (InPlace S) (bs.flatMap slotsOf) (List.zipWith filled bs psss).flatten := by
  induction bs generalizing psss with
  | nil =>
    cases h
    exact .nil
  | cons b bs ih =>
    rw [List.map_cons, List.forall₂_cons_left_iff] at h
    obtain ⟨pss, psss', hpss, hpsss, rfl⟩ := h
    exact List.rel_append (forall₂_slotsOf hpss) (ih hpsss)

theorem isNamed_of_forall₂ {S : Paragraph → Xml.Node → Prop}
    (hS : ∀ p n, S p n → n.isNamed (w "p") = true) {rowss : List (List (List Paragraph))}
    {psss : List (List (List Xml.Node))}
    (h : List.Forall₂ (List.Forall₂ (List.Forall₂ S)) rowss psss) :
    ∀ pss ∈ psss, ∀ ps ∈ pss, ∀ n ∈ ps, n.isNamed (w "p") = true := by
  refine (forall_mem_of_forall₂ (p := fun _ => True) (fun _ pss h => ⟨trivial, ?_⟩) h).2
  refine (forall_mem_of_forall₂ (p := fun _ => True) (fun _ ps h => ⟨trivial, ?_⟩) h).2
  exact (forall_mem_of_forall₂ (p := fun _ => True) (fun p n h => ⟨trivial, hS p n h⟩) h).2

/-- What each paragraph is written as stands among what is written, in the order of the paragraphs
    of the document. -/
theorem forall₂_inPlace_of_leads {s : Setting} {S : Draft → Paragraph → Xml.Node → Prop}
    (hgrows : ∀ ⦃d d' p n⦄, Draft.Grows d d' → S d p n → S d' p n)
    (hnamed : ∀ d p n, S d p n → n.isNamed (w "p") = true)
    {bs : List Layout.Block} {d d' : Draft} {nss : List (List Xml.Node)}
    (hids : Relationship.Distinct d.main.relationships)
    (h : ∀ p : Paragraph, (∀ r ∈ p.runs, r ∈ bs.flatMap (·.runs)) → ∀ ⦃d n d'⦄,
      Relationship.Distinct d.main.relationships → Leads (s.paragraph p) d n d' → S d' p n)
    (hlead : Leads (bs.mapM s.block) d nss d') :
    List.Forall₂ (InPlace (S d')) (bs.flatMap slotsOf) (paragraphsInList nss.flatten) := by
  obtain ⟨psss, hpsss, hall⟩ := Setting.leads_blocks.1 hlead
  -- Blocks hold rows, rows hold cells and cells hold paragraphs: one step for each.
  have hplaced : List.Forall₂ (List.Forall₂ (List.Forall₂ (S d'))) (bs.map rowsOf) psss := by
    refine forall₂_of_leads_mapM (R := fun d => List.Forall₂ (List.Forall₂ (S d)))
      (fun _ _ _ _ hd h => h.imp fun _ _ h => h.imp fun _ _ => @hgrows _ _ _ _ hd)
      s.steady_grid (fun rows hrows => ?_) hids hpsss
    obtain ⟨b, hb, rfl⟩ := List.mem_map.1 hrows
    intro d pss d' hids hpss
    refine forall₂_of_leads_mapM (R := fun d => List.Forall₂ (S d))
      (fun _ _ _ _ hd h => h.imp fun _ _ => @hgrows _ _ _ _ hd)
      (fun cells => steady_mapM s.steady_paragraph cells) (fun cells hcells => ?_) hids hpss
    intro d ps d' hids hps
    refine forall₂_of_leads_mapM (R := S) hgrows s.steady_paragraph (fun p hp => ?_) hids hps
    refine h p fun r hr => ?_
    exact List.mem_flatMap.2 ⟨b, hb, mem_runs_of_rowsOf hcells hp hr⟩
  rw [paragraphsIn_assembledAll hall (isNamed_of_forall₂ (hnamed d') hplaced)]
  exact forall₂_slots hplaced

/-- What holds of the text of each paragraph holds of the paragraphs that are written, which follow
    in the order of those of the document. -/
theorem forall₂_slots_of_leads {s : Setting} {R : Draft → List Layout.Run → List Xml.Node → Prop}
    (hR : ∀ ⦃d d' rs ns⦄, Draft.Grows d d' → R d rs ns → R d' rs ns)
    {bs : List Layout.Block} {d d' : Draft} {nss : List (List Xml.Node)}
    (hids : Relationship.Distinct d.main.relationships)
    (h : ∀ rs, (∀ r ∈ rs, r ∈ bs.flatMap (·.runs)) → ∀ ⦃d ns d'⦄,
      Relationship.Distinct d.main.relationships → Leads (s.text rs) d ns d' → R d' rs ns)
    (hlead : Leads (bs.mapM s.block) d nss d') :
    List.Forall₂ (ShownAs (R d')) (bs.flatMap slotsOf) (paragraphsInList nss.flatten) := by
  refine (forall₂_inPlace_of_leads (S := fun d p => ShownAs (R d) (some p)) ?_ ?_ hids ?_ hlead).imp
    fun slot n hn => by cases slot <;> exact hn
  · rintro d d' p n hd ⟨ps, ns, rfl, hns⟩
    exact ⟨ps, ns, rfl, hR hd hns⟩
  · rintro d p n ⟨ps, ns, rfl, -⟩
    exact isNamed_element ..
  · intro p hp d n d' hids hn
    obtain ⟨ps, ns, -, hns, rfl⟩ := Setting.leads_paragraph.1 hn
    exact ⟨ps, ns, rfl, h p.runs hp hids hns⟩

end Docx

end Manuscript
