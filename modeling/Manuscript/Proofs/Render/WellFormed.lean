import Manuscript.Proofs.Render.Emitted
import Manuscript.Proofs.Render.Grid

/-!
# Well-formed documents

Each run of a document that is laid out from a tree either has text or is a break without anything
of its own, and a break belongs to no link and stands for no picture (`wellFormed_render`). That is
so for any tree: nodes that have no place where they stand give such runs as well, or none.

Paragraphs and tables are well formed, too: an item is numbered if its list is ordered and not
otherwise, nothing is written above a line, and the header of a table is one of its rows, if there
is one at all (`forall_wellFormed_render`).
-/

namespace Manuscript

namespace Layout

/-- A run has text, or it is a break that has no text, no link and no picture. -/
def Run.WellFormed (r : Run) : Prop :=
  if r.isBreak then r.text = "" ∧ r.hyperlink = none ∧ r.imageSource = none else r.text ≠ ""

/-- A paragraph whose runs are well formed, that has a number if and only if it opens an item of an
    ordered list, and no runs if a line is drawn below it. -/
structure Paragraph.WellFormed (p : Paragraph) : Prop where
  runs : ∀ r ∈ p.runs, r.WellFormed
  ordinal : p.listOrdinal.isSome ↔ p.listKind = some .ordered
  border : p.bottomBorder = true → p.runs = []

/-- A table whose cells are well formed, and that has at most one header row. -/
structure Table.WellFormed (t : Table) : Prop where
  cells : ∀ r ∈ t.rows, ∀ p ∈ r.cells, p.WellFormed
  header : t.headerRows = 0 ∨ t.headerRows = 1
  header_le : t.headerRows ≤ t.rows.length

/-- A block that is a well-formed paragraph or a well-formed table. -/
def Block.WellFormed : Block → Prop
  | .paragraph p => p.WellFormed
  | .table t => t.WellFormed

/-- A document all of whose blocks are well formed. -/
def Document.WellFormed (d : Document) : Prop :=
  ∀ b ∈ d.blocks, b.WellFormed

/-- A paragraph that opens no item and has no line below it needs only well-formed runs. -/
theorem Paragraph.WellFormed.of_runs {p : Paragraph} (hruns : ∀ r ∈ p.runs, r.WellFormed)
    (hordinal : p.listOrdinal = none) (hkind : p.listKind = none)
    (hborder : p.bottomBorder = false) : p.WellFormed where
  runs := hruns
  ordinal := by simp [hordinal, hkind]
  border := by simp [hborder]

end Layout

namespace Render

open Layout

/-- The runs of a text are well formed, as an empty text gives none. -/
theorem wellFormed_textRuns (text : String) (f : Format) (link : Option String) :
    ∀ r ∈ textRuns text f link, r.WellFormed := by
  intro r hr
  rw [textRuns] at hr
  split at hr
  · cases hr
  · cases List.mem_singleton.1 hr
    simp_all [Run.WellFormed, Run.isBreak]

/-- The runs of a link are well formed, with its address for a label where it has none. -/
theorem wellFormed_labelled {url : String} {f : Format} {rs : List Run}
    (h : ∀ r ∈ rs, r.WellFormed) : ∀ r ∈ labelled url f rs, r.WellFormed := by
  rw [labelled]
  split
  · exact h
  · refine List.forall_mem_append.2 ⟨h, List.forall_mem_singleton.2 ?_⟩
    simp_all [Run.WellFormed, Run.isBreak]

/-- What stands for a picture is never empty. -/
theorem imageText_ne_empty (url alt : String) : imageText url alt ≠ "" := by
  rw [imageText]
  split
  · intro h
    simpa using congrArg String.length h
  · simp_all

mutual

/-- The runs of an inline node are well formed, by cases on the node. -/
theorem wellFormed_inline (o : DocxOptions) (f : Format) (link : Option String) (n : Node) :
    ∀ r ∈ inline o f link n, r.WellFormed := by
  cases n with
  | text s | code s => exact wellFormed_textRuns _ _ _
  | strong ns | emphasis ns | underline ns => exact wellFormed_inlines o _ link ns
  | link url ns => exact wellFormed_labelled (wellFormed_inlines o _ (some url) ns)
  | image url alt =>
    refine List.forall_mem_singleton.2 ?_
    simpa [Run.WellFormed, Run.isBreak] using imageText_ne_empty url alt
  | softBreak =>
    rw [inline]
    split <;> simp [Run.WellFormed, Run.isBreak]
  | hardBreak => simp [inline, Run.WellFormed, Run.isBreak]
  | htmlInline | htmlBlock | fencedCode | indentedCode | thematicBreak =>
    exact List.forall_mem_nil _
  | table header rows =>
    cases header with
    | none => exact wellFormed_inlines o f link rows
    | some header =>
      exact List.forall_mem_append.2
        ⟨wellFormed_inline o f link header, wellFormed_inlines o f link rows⟩
  | document ns | heading _ ns | paragraph ns | bulletList ns | orderedList _ ns | listItem ns
  | tableRow ns | tableCell ns | blockQuote ns => exact wellFormed_inlines o f link ns

theorem wellFormed_inlines (o : DocxOptions) (f : Format) (link : Option String) (ns : List Node) :
    ∀ r ∈ inlines o f link ns, r.WellFormed := by
  cases ns with
  | nil => exact List.forall_mem_nil _
  | cons n ns =>
    exact List.forall_mem_append.2 ⟨wellFormed_inline o f link n, wellFormed_inlines o f link ns⟩

end

/-- The runs in the cells of a table are well formed. -/
theorem wellFormed_table (o : DocxOptions) (header : Option Node) (rows : List Node) :
    ∀ r ∈ (Block.table (table o header rows)).runs, r.WellFormed := by
  intro r hr
  rw [table_eq] at hr
  obtain ⟨row, hrow, hr⟩ := List.mem_flatMap.1 hr
  obtain ⟨source, -, rfl⟩ := List.mem_map.1 hrow
  obtain ⟨p, hp, hr⟩ := List.mem_flatMap.1 hr
  obtain ⟨cell, -, rfl⟩ := List.mem_map.1 hp
  exact wellFormed_inlines o _ none _ r hr

/-! ## Quotes -/

theorem wellFormed_ofRuns {rs : List Run} (h : ∀ r ∈ rs, r.WellFormed) :
    ∀ g ∈ (Quotation.ofRuns rs).groups, ∀ r ∈ g, r.WellFormed := by
  rw [Quotation.ofRuns]
  split
  · exact List.forall_mem_nil _
  · exact List.forall_mem_singleton.2 h

mutual

/-- The runs gathered of a node in a quote are well formed. -/
theorem wellFormed_quotation (o : DocxOptions) (n : Node) :
    ∀ g ∈ (quotation o n).groups, ∀ r ∈ g, r.WellFormed := by
  cases n with
  | paragraph ns | heading _ ns => exact wellFormed_ofRuns (wellFormed_inlines o _ none ns)
  | fencedCode code | indentedCode code => exact wellFormed_ofRuns (wellFormed_textRuns _ _ _)
  | blockQuote ns | bulletList ns | orderedList _ ns | listItem ns =>
    exact wellFormed_quotations o ns
  | document | table | tableRow | tableCell | thematicBreak | htmlBlock | text | emphasis | strong
  | underline | code | link | image | softBreak | hardBreak | htmlInline =>
    exact List.forall_mem_nil _

theorem wellFormed_quotations (o : DocxOptions) (ns : List Node) :
    ∀ g ∈ (quotations o ns).groups, ∀ r ∈ g, r.WellFormed := by
  cases ns with
  | nil => exact List.forall_mem_nil _
  | cons n ns =>
    exact List.forall_mem_append.2 ⟨wellFormed_quotation o n, wellFormed_quotations o ns⟩

end

/-- Putting breaks between groups keeps their runs well formed. -/
theorem wellFormed_intercalate {groups : List (List Run)}
    (h : ∀ g ∈ groups, ∀ r ∈ g, r.WellFormed) :
    ∀ r ∈ [quoteBreak].intercalate groups, r.WellFormed := by
  have hbreak : quoteBreak.WellFormed := ⟨rfl, rfl, rfl⟩
  induction groups with
  | nil => exact List.forall_mem_nil _
  | cons g groups ih =>
    obtain ⟨hg, hgroups⟩ := List.forall_mem_cons.1 h
    cases groups with
    | nil => simpa using hg
    | cons g' groups =>
      rw [List.intercalate_cons_cons]
      exact List.forall_mem_append.2
        ⟨List.forall_mem_append.2 ⟨hg, List.forall_mem_singleton.2 hbreak⟩, ih hgroups⟩

/-! ## Blocks -/

variable {s : Setup}

/-- The runs of each block that is emitted are well formed. -/
theorem wellFormed_of_emitted {b : Block} (h : Emitted s b) : ∀ r ∈ b.runs, r.WellFormed := by
  cases h with
  | heading level ns =>
    rw [heading]
    split <;> exact wellFormed_inlines _ _ none ns
  | paragraph depth ns => exact wellFormed_inlines _ _ none ns
  | item m depth ns =>
    exact List.forall_mem_append.2 ⟨wellFormed_textRuns _ _ _, wellFormed_inlines _ _ none ns⟩
  | code depth code => exact wellFormed_textRuns _ _ _
  | thematicBreak => exact List.forall_mem_nil _
  | table header rows => exact wellFormed_table _ header rows
  | quote ns => exact wellFormed_intercalate (wellFormed_quotations _ ns)

/-- Each run of a document that is laid out has text, or is a break without anything of its own. -/
theorem wellFormed_render (s : Setup) (ns : List Node) :
    ∀ r ∈ (render s ns).runs, r.WellFormed := by
  intro r hr
  obtain ⟨b, hb, hr⟩ := List.mem_flatMap.1 hr
  exact wellFormed_of_emitted (emitted_of_mem_render hb) r hr

/-- The paragraph of an item has a number if its marking does, which only that of an ordered list
    has. -/
theorem wellFormed_item (m : Marking) (o : DocxOptions) (depth : Nat) {text : List Run}
    (h : ∀ r ∈ (m.paragraph o depth text).runs, r.WellFormed) :
    (m.paragraph o depth text).WellFormed where
  runs := h
  ordinal := by cases m <;> simp [Marking.paragraph]
  border := nofun

/-- The cells of a table are well formed, with a header of one row at most. -/
theorem wellFormed_cells (o : DocxOptions) (header : Option Node) (rows : List Node) :
    (table o header rows).WellFormed where
  cells := by
    intro row hrow p hp
    have hruns : ∀ r ∈ p.runs, r.WellFormed := fun r hr =>
      wellFormed_table o header rows r
        (List.mem_flatMap.2 ⟨row, hrow, List.mem_flatMap.2 ⟨p, hp, hr⟩⟩)
    rw [table_eq] at hrow
    obtain ⟨source, -, rfl⟩ := List.mem_map.1 hrow
    obtain ⟨cell, -, rfl⟩ := List.mem_map.1 hp
    exact .of_runs hruns rfl rfl rfl
  header := by
    rw [table_eq]
    cases header with
    | none => exact .inl rfl
    | some header => exact .inr rfl
  header_le := by
    rw [table_eq]
    cases header with
    | none => exact Int.natCast_nonneg _
    -- The header is the first of the rows, so there is one if it is counted.
    | some header =>
      simp only [sourceRows, Option.isSome_some, if_true, List.length_map, List.length_append,
        Option.toList_some, List.length_singleton]
      omega

/-- A document that is laid out is well formed, whatever the tree. -/
theorem forall_wellFormed_render (s : Setup) (ns : List Node) : (render s ns).WellFormed := by
  intro b hb
  have hemitted := emitted_of_mem_render hb
  have hruns := wellFormed_of_emitted hemitted
  cases hemitted with
  | heading level ns =>
    refine .of_runs hruns ?_ ?_ ?_ <;> (rw [heading]; split <;> rfl)
  | paragraph depth ns => exact .of_runs hruns rfl rfl rfl
  | item m depth ns => exact wellFormed_item m s.options depth hruns
  | code depth code => exact .of_runs hruns rfl rfl rfl
  -- The only line below a paragraph is that of a thematic break, which has no runs.
  | thematicBreak => exact ⟨hruns, by simp [thematicBreak], fun _ => rfl⟩
  | table header rows => exact wellFormed_cells s.options header rows
  | quote ns => exact .of_runs hruns rfl rfl rfl

end Render

end Manuscript
