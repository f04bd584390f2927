import Manuscript.Render

/-!
# The blocks that laying out gives

A document is laid out in one pass through lists and items, and each of its blocks is of one of a
few forms (`Emitted`): a heading, a paragraph, the opening of an item, code, a thematic break, a
table, be it from a quote or not, or the paragraph of a quote. What is to be shown of all blocks is
shown of each form (`emitted_of_mem_render`).
-/

namespace Manuscript.Render

open Layout

/-- A block that laying out gives, by what it is laid out from. -/
inductive Emitted (s : Setup) : Block → Prop
  | heading (level : Value) (ns : List Node) : Emitted s (.paragraph (heading s level ns))
  | paragraph (depth : Nat) (ns : List Node) : Emitted s (.paragraph
      { runs := runs s.options .plain ns, spacingAfter := some 150, listLevel := depth })
  | item (m : Marking) (depth : Nat) (ns : List Node) :
    Emitted s (.paragraph (m.paragraph s.options depth (runs s.options .plain ns)))
  | code (depth : Nat) (code : String) : Emitted s (.paragraph (codeBlock s depth code))
  | thematicBreak : Emitted s (.paragraph thematicBreak)
  | table (header : Option Node) (rows : List Node) :
    Emitted s (.table (Render.table s.options header rows))
  | quote (ns : List Node) : Emitted s (.paragraph
      { runs := (quotations s.options ns).runs, spacingAfter := some 150, leftIndent := some 720,
        rightIndent := some 360 })

variable {s : Setup}

/-! ## Quotes -/

/-- Tables are laid out from those of a tree. -/
def AreTables (o : DocxOptions) (ts : List Table) : Prop :=
  ∀ t ∈ ts, ∃ header rows, t = Render.table o header rows

theorem areTables_ofRuns (o : DocxOptions) (rs : List Run) :
    AreTables o (Quotation.ofRuns rs).tables := by
  rw [Quotation.ofRuns]
  split <;> exact List.forall_mem_nil _

mutual

/-- Each table that is kept back in a quote is what a table of the source is laid out as. -/
theorem areTables_quotation (o : DocxOptions) (n : Node) : AreTables o (quotation o n).tables := by
  cases n with
  | paragraph | heading | fencedCode | indentedCode => exact areTables_ofRuns o _
  | blockQuote ns | bulletList ns | orderedList _ ns | listItem ns =>
    exact areTables_quotations o ns
  | table header rows => exact List.forall_mem_singleton.2 ⟨header, rows, rfl⟩
  | document | tableRow | tableCell | thematicBreak | htmlBlock | text | emphasis | strong
  | underline | code | link | image | softBreak | hardBreak | htmlInline =>
    exact List.forall_mem_nil _

theorem areTables_quotations (o : DocxOptions) (ns : List Node) :
    AreTables o (quotations o ns).tables := by
  cases ns with
  | nil => exact List.forall_mem_nil _
  | cons n ns => exact List.forall_mem_append.2 ⟨areTables_quotation o n, areTables_quotations o ns⟩

end

/-- The blocks of a quote, a paragraph and the tables after it, are emitted. -/
theorem emitted_of_mem_quote {ns : List Node} {b : Block} (h : b ∈ quote s.options ns) :
    Emitted s b := by
  rw [quote, Quotation.blocks] at h
  rcases List.mem_append.1 h with h | h
  · split at h
    · cases h
    · cases List.mem_singleton.1 h
      exact .quote ns
  · obtain ⟨t, ht, rfl⟩ := List.mem_map.1 h
    obtain ⟨header, rows, rfl⟩ := areTables_quotations s.options ns t ht
    exact .table header rows

/-! ## Blocks -/

/-- All blocks of a document are of the forms that laying out gives. -/
def AllEmitted (s : Setup) (d : Document) : Prop :=
  ∀ b ∈ d.blocks, Emitted s b

theorem AllEmitted.append {d e : Document} (hd : AllEmitted s d) (he : AllEmitted s e) :
    AllEmitted s (d ++ e) :=
  List.forall_mem_append.2 ⟨hd, he⟩

theorem allEmitted_empty (m : Metadata) : AllEmitted s { metadata := m } :=
  List.forall_mem_nil _

/-- A document of one paragraph is emitted if the paragraph is. -/
theorem allEmitted_ofParagraph {p : Paragraph} (h : Emitted s (.paragraph p)) :
    AllEmitted s (.ofParagraph p) :=
  List.forall_mem_singleton.2 h

mutual

/-- All blocks of a node are emitted. -/
theorem allEmitted_block (depth : Nat) (n : Node) : AllEmitted s (block s depth n) := by
  cases n with
  | document ns m => exact (allEmitted_empty m).append (allEmitted_blocks depth ns)
  | heading level ns => exact allEmitted_ofParagraph (.heading level ns)
  | paragraph ns => exact allEmitted_ofParagraph (.paragraph depth ns)
  | bulletList ns | orderedList _ ns => exact allEmitted_items depth _ ns
  | listItem ns => exact allEmitted_itemBlocks depth _ ns
  | table header rows => exact List.forall_mem_singleton.2 (.table header rows)
  | fencedCode code | indentedCode code => exact allEmitted_ofParagraph (.code depth code)
  | blockQuote ns => exact fun b hb => emitted_of_mem_quote hb
  | thematicBreak => exact allEmitted_ofParagraph .thematicBreak
  | tableRow | tableCell | htmlBlock | text | emphasis | strong | underline | code | link | image
  | softBreak | hardBreak | htmlInline => exact allEmitted_empty _

theorem allEmitted_blocks (depth : Nat) (ns : List Node) : AllEmitted s (blocks s depth ns) := by
  cases ns with
  | nil => exact allEmitted_empty _
  | cons n ns => exact (allEmitted_block depth n).append (allEmitted_blocks depth ns)

/-- All blocks of the items of a list are emitted. -/
theorem allEmitted_items (depth : Nat) (m : Marking) (ns : List Node) :
    AllEmitted s (items s depth m ns) := by
  cases ns with
  | nil => exact allEmitted_empty _
  | cons n ns => exact (allEmitted_item depth m n).append (allEmitted_items depth m.next ns)

theorem allEmitted_item (depth : Nat) (m : Marking) (n : Node) :
    AllEmitted s (item s depth m n) := by
  cases n with
  | listItem ns | document ns | blockQuote ns => exact allEmitted_itemBlocks depth m ns
  | _ => exact allEmitted_ofParagraph (.item m depth [])

/-- All blocks that an item holds are emitted. -/
theorem allEmitted_itemBlocks (depth : Nat) (m : Marking) (ns : List Node) :
    AllEmitted s (itemBlocks s depth m ns) := by
  have hopening (text : List Node) : AllEmitted s
      (.ofParagraph (m.paragraph s.options depth (runs s.options .plain text))) :=
    allEmitted_ofParagraph (.item m depth text)
  cases ns with
  | nil => exact hopening []
  | cons n ns =>
    by_cases hn : n.kind = .paragraph
    · cases n with
      | paragraph text => exact (hopening text).append (allEmitted_blocks (depth + 1) ns)
      | _ => cases hn
    · rw [itemBlocks_cons_of_ne hn]
      exact (hopening []).append
        ((allEmitted_block (depth + 1) n).append (allEmitted_blocks (depth + 1) ns))

end

/-- Each block of a document that is laid out is of one of the forms. -/
theorem emitted_of_mem_render {ns : List Node} {b : Block} (h : b ∈ (render s ns).blocks) :
    Emitted s b :=
  allEmitted_blocks 0 ns b h

end Manuscript.Render
