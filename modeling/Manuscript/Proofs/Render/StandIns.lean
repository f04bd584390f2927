import Manuscript.Proofs.Node.Sorting
import Manuscript.Proofs.Render.Grid
import Manuscript.Render

/-!
# What is skipped

A node may stand anywhere in a tree, and where it has no place it is skipped: nothing is laid out
for it or for what is beneath it. To say which nodes are skipped, documents are also laid out with
something else in their stead (`StandIns`, `renderWith`). Without stand-ins the document is that of
the tree (`renderWith_empty`).

In a well-sorted document there is little to skip. Stand-ins make no difference to it unless they
are for raw HTML, for a thematic break in a quote or for text and code that is empty
(`renderWith_document`), and documents made of tokens are well-sorted
(`renderWith_document_ofTokens`).
-/

namespace Manuscript

/-- Whether a node is text or code of which there is none. -/
def Node.isEmptyLeaf : Node → Bool
  | .text s _ | .code s _ => s.isEmpty
  | _ => false

namespace Render

open Layout

/-- What is laid out for the nodes that are skipped, by what they are met among. -/
structure StandIns where
  /-- For a node without a rendering among blocks. -/
  block : Node → Document := fun _ => {}
  /-- For a node of a quote that gives neither text nor a table. -/
  quoted : Node → Quotation := fun _ => {}
  /-- For a node that gives no runs, and has no nodes beneath it to give any. -/
  inline : Format → Option String → Node → List Run := fun _ _ _ => []

/-- Nothing stands in for raw HTML, for a thematic break in a quote or for an empty leaf. -/
structure StandIns.Sparing (k : StandIns) : Prop where
  quoted : ∀ n : Node, n.kind = .thematicBreak ∨ n.kind = .htmlBlock → k.quoted n = {}
  inline : ∀ (f : Format) (link : Option String) (n : Node),
    n.kind = .htmlInline ∨ n.isEmptyLeaf = true → k.inline f link n = []

/-! ## Laying out with stand-ins -/

mutual

/-- The runs of a node, with stand-ins. -/
def inlineWith (k : StandIns) (o : DocxOptions) (f : Format) (link : Option String) (n : Node) :
    List Run :=
  match n with
  | .text s _ => if s.isEmpty then k.inline f link n else textRuns s f link
  | .code s _ =>
    if s.isEmpty then k.inline f link n else textRuns s (f.apply (.monospace true)) link
  | .strong ns _ => inlinesWith k o (f.apply (.bold true)) link ns
  | .emphasis ns _ => inlinesWith k o (f.apply (.italic true)) link ns
  | .underline ns _ => inlinesWith k o (f.apply (.underline true)) link ns
  | .link url ns _ _ =>
    labelled url (linkFormat o f) (inlinesWith k o (linkFormat o f) (some url) ns)
  | .image .. | .softBreak .. | .hardBreak .. => inline o f link n
  | .htmlInline .. | .htmlBlock .. | .fencedCode .. | .indentedCode .. | .thematicBreak .. =>
    k.inline f link n
  | .table none rows _ => if rows.isEmpty then k.inline f link n else inlinesWith k o f link rows
  | .table (some header) rows _ =>
    inlineWith k o f link header ++ inlinesWith k o f link rows
  | .document ns _ | .heading _ ns _ | .paragraph ns _ | .bulletList ns _ | .orderedList _ ns _
  | .listItem ns _ | .tableRow ns _ | .tableCell ns _ | .blockQuote ns _ =>
    if ns.isEmpty then k.inline f link n else inlinesWith k o f link ns

/-- The runs of a list of nodes, with stand-ins. -/
def inlinesWith (k : StandIns) (o : DocxOptions) (f : Format) (link : Option String) :
    List Node → List Run
  | [] => []
  | n :: ns => inlineWith k o f link n ++ inlinesWith k o f link ns

end

/-- The cell of a source cell, with stand-ins. -/
def sourceCellWith (k : StandIns) (o : DocxOptions) (f : Format) (cell : Node) : Paragraph :=
  { runs := inlinesWith k o f none cell.children }

/-- The table of a header and of rows, with stand-ins. -/
def tableWith (k : StandIns) (o : DocxOptions) (header : Option Node) (rows : List Node) :
    Table where
  rows := (sourceRows header rows).map fun row =>
    ⟨row.1.children.map (sourceCellWith k o row.2)⟩
  width := o.tableWidth
  headerRows := if header.isSome then 1 else 0

mutual

/-- What a quoted node gives, with stand-ins. -/
def quotationWith (k : StandIns) (o : DocxOptions) (n : Node) : Quotation :=
  match n with
  | .paragraph ns _ | .heading _ ns _ => .ofRuns (inlinesWith k o quoteFormat none ns)
  | .fencedCode .. | .indentedCode .. => quotation o n
  | .blockQuote ns _ | .bulletList ns _ | .orderedList _ ns _ | .listItem ns _ =>
    quotationsWith k o ns
  | .table header rows _ => { tables := [tableWith k o header rows] }
  | .document .. | .tableRow .. | .tableCell .. | .thematicBreak .. | .htmlBlock .. | .text ..
  | .emphasis .. | .strong .. | .underline .. | .code .. | .link .. | .image .. | .softBreak ..
  | .hardBreak .. | .htmlInline .. => k.quoted n

/-- What a list of quoted nodes gives, with stand-ins. -/
def quotationsWith (k : StandIns) (o : DocxOptions) : List Node → Quotation
  | [] => {}
  | n :: ns => quotationWith k o n ++ quotationsWith k o ns

end

/-- A heading, with stand-ins. -/
def headingWith (k : StandIns) (s : Setup) (level : Value) (ns : List Node) : Paragraph :=
  let f :=
    if s.hasStyle (headingStyle level) then Format.plain
    else
      let size := s.options.headingSize (headingLevel level)
      Format.plain.merge [.bold true, .fontSize (some size)]
  { heading s level ns with runs := inlinesWith k s.options f none ns }

mutual

/-- The blocks of a node that lies in `depth` list items, with stand-ins. -/
def blockWith (k : StandIns) (s : Setup) (depth : Nat) (n : Node) : Document :=
  match n with
  | .document ns m => ({ metadata := m } : Document) ++ blocksWith k s depth ns
  | .heading level ns _ => .ofParagraph (headingWith k s level ns)
  | .paragraph ns _ =>
    .ofParagraph
      { runs := inlinesWith k s.options .plain none ns, spacingAfter := some 150,
        listLevel := depth }
  | .bulletList ns _ => itemsWith k s depth .bullet ns
  | .orderedList start ns _ => itemsWith k s depth (.ordinal start) ns
  | .listItem ns _ => itemBlocksWith k s depth .unmarked ns
  | .table header rows _ => { blocks := [.table (tableWith k s.options header rows)] }
  | .blockQuote ns _ => { blocks := (quotationsWith k s.options ns).blocks }
  | .fencedCode .. | .indentedCode .. | .thematicBreak .. | .htmlBlock .. => block s depth n
  | .tableRow .. | .tableCell .. | .text .. | .emphasis .. | .strong .. | .underline .. | .code ..
  | .link .. | .image .. | .softBreak .. | .hardBreak .. | .htmlInline .. => k.block n

/-- The blocks of a list of nodes, with stand-ins. -/
def blocksWith (k : StandIns) (s : Setup) (depth : Nat) : List Node → Document
  | [] => {}
  | n :: ns => blockWith k s depth n ++ blocksWith k s depth ns

/-- The blocks of the items of a list, with stand-ins. -/
def itemsWith (k : StandIns) (s : Setup) (depth : Nat) (m : Marking) : List Node → Document
  | [] => {}
  | n :: ns => itemWith k s depth m n ++ itemsWith k s depth m.next ns

/-- The blocks of an item of a list, with stand-ins; one stands in behind the empty paragraph of a
    node that is no item. -/
def itemWith (k : StandIns) (s : Setup) (depth : Nat) (m : Marking) (n : Node) : Document :=
  match n with
  | .listItem ns _ | .document ns _ | .blockQuote ns _ => itemBlocksWith k s depth m ns
  | n => .ofParagraph (m.paragraph s.options depth []) ++ k.block n

/-- The blocks of an item that holds the given nodes, with stand-ins. -/
def itemBlocksWith (k : StandIns) (s : Setup) (depth : Nat) (m : Marking) : List Node → Document
  | [] => .ofParagraph (m.paragraph s.options depth [])
  | .paragraph text _ :: ns =>
    .ofParagraph (m.paragraph s.options depth (inlinesWith k s.options .plain none text)) ++
      blocksWith k s (depth + 1) ns
  | n :: ns =>
    .ofParagraph (m.paragraph s.options depth []) ++
      (blockWith k s (depth + 1) n ++ blocksWith k s (depth + 1) ns)

end

/-- The blocks of an item that does not begin with a paragraph, with stand-ins. -/
theorem itemBlocksWith_cons_of_ne {n : Node} (h : n.kind ≠ .paragraph) (k : StandIns) (s : Setup)
    (depth : Nat) (m : Marking) (ns : List Node) :
    itemBlocksWith k s depth m (n :: ns) =
      .ofParagraph (m.paragraph s.options depth []) ++ blocksWith k s (depth + 1) (n :: ns) := by
  cases n with
  | paragraph => exact absurd rfl h
  | _ => simp only [itemBlocksWith, blocksWith]

/-- Lays out a list of nodes with stand-ins. -/
def renderWith (k : StandIns) (s : Setup) (ns : List Node) : Document :=
  blocksWith k s 0 ns

/-! ## Stand-ins that make no difference -/

/-- Stand-ins are not met in a tree at a position: there are none, or they are sparing, and the tree
    is well-sorted and belongs there. -/
def Idle (k : StandIns) (p : Node.Position) (n : Node) : Prop :=
  k = {} ∨ k.Sparing ∧ n.Stands p

namespace Idle

variable {k : StandIns} {p q : Node.Position} {n : Node}

/-- Where nodes of the kind do not belong, there are no stand-ins. -/
theorem eq_empty (h : Idle k p n) (hn : n.kind.position? ≠ some p) : k = {} :=
  h.resolve_right fun h => hn h.2.position

/-- Stand-ins that are idle at a node are idle beneath it. -/
theorem beneath (h : Idle k p n) (hq : n.kind.beneath? = some q) : ∀ m ∈ n.children, Idle k q m :=
  fun m hm => h.imp_right fun h => ⟨h.1, (Node.wellSorted_iff_stands hq).1 h.2.wellSorted m hm⟩

/-- Stand-ins that are idle at a row are idle at its cells. -/
theorem cells (h : Idle k .row n) : ∀ m ∈ n.children, Idle k .cell m := by
  rcases h with rfl | ⟨hk, hn⟩
  · exact fun m _ => .inl rfl
  · have hq : n.kind.beneath? = some .cell := by
      cases n <;> first | rfl | exact nomatch hn.position
    exact Idle.beneath (.inr ⟨hk, hn⟩) hq

/-- Stand-ins that are idle at a cell are idle in it. -/
theorem content (h : Idle k .cell n) : ∀ m ∈ n.children, Idle k .inline m := by
  rcases h with rfl | ⟨hk, hn⟩
  · exact fun m _ => .inl rfl
  · have hq : n.kind.beneath? = some .inline := by
      cases n <;> first | rfl | exact nomatch hn.position
    exact Idle.beneath (.inr ⟨hk, hn⟩) hq

/-- What is quoted of a rule or of raw blocks stays nothing. -/
theorem quoted (h : Idle k p n) (hn : n.kind = .thematicBreak ∨ n.kind = .htmlBlock) :
    k.quoted n = {} := by
  rcases h with rfl | h
  · rfl
  · exact h.1.quoted n hn

theorem inline (h : Idle k p n) (f : Format) (link : Option String)
    (hn : n.kind = .htmlInline ∨ n.isEmptyLeaf = true) : k.inline f link n = [] := by
  rcases h with rfl | h
  · rfl
  · exact h.1.inline f link n hn

end Idle

/-- Stand-ins that are nothing are idle everywhere. -/
theorem idle_empty (p : Node.Position) (ns : List Node) : ∀ n ∈ ns, Idle {} p n :=
  fun _ _ => .inl rfl

/-! ### Inlines -/

/-- Nodes without any beneath them give no runs either way. -/
theorem ite_isEmpty_inlines (o : DocxOptions) (f : Format) (link : Option String) {ns : List Node}
    {rs : List Run} (h : rs = inlines o f link ns) :
    (if ns.isEmpty then [] else rs) = inlines o f link ns := by
  split
  case isTrue hempty =>
    rw [List.isEmpty_iff.1 hempty]
    rfl
  case isFalse => exact h

/-- There are no runs of an empty text either way. -/
theorem ite_isEmpty_textRuns {s : String} {f : Format} {link : Option String} {rs : List Run}
    (h : s.isEmpty = true → rs = []) :
    (if s.isEmpty then rs else textRuns s f link) = textRuns s f link := by
  split
  case isTrue hempty => rw [h hempty, textRuns, if_pos hempty]
  case isFalse => rfl

mutual

/-- An inline node is laid out as without stand-ins, where they are idle. -/
theorem inlineWith_eq {k : StandIns} (o : DocxOptions) (f : Format) (link : Option String)
    (n : Node) (h : Idle k .inline n) : inlineWith k o f link n = inline o f link n := by
  cases n with
  | text s m | code s m => exact ite_isEmpty_textRuns fun hs => h.inline f link (.inr hs)
  | strong ns | emphasis ns | underline ns => exact inlinesWith_eq o _ link ns (h.beneath rfl)
  | link url ns title m =>
    exact congrArg (labelled url _) (inlinesWith_eq o _ (some url) ns (h.beneath rfl))
  | image | softBreak | hardBreak => rfl
  | htmlInline => exact h.inline f link (.inl rfl)
  -- The others do not belong among inlines, so there are no stand-ins to be met in them.
  | htmlBlock | fencedCode | indentedCode | thematicBreak =>
    obtain rfl := h.eq_empty nofun
    rfl
  | table header rows m =>
    obtain rfl := h.eq_empty nofun
    have hrows := inlinesWith_eq o f link rows (idle_empty _ rows)
    cases header with
    | none => exact ite_isEmpty_inlines o f link hrows
    | some header => rw [inlineWith, inline, inlineWith_eq o f link header (.inl rfl), hrows]
  | document ns | heading _ ns | paragraph ns | bulletList ns | orderedList _ ns | listItem ns
  | tableRow ns | tableCell ns | blockQuote ns =>
    obtain rfl := h.eq_empty nofun
    exact ite_isEmpty_inlines o f link (inlinesWith_eq o f link ns (idle_empty _ ns))

theorem inlinesWith_eq {k : StandIns} (o : DocxOptions) (f : Format) (link : Option String)
    (ns : List Node) (h : ∀ n ∈ ns, Idle k .inline n) :
    inlinesWith k o f link ns = inlines o f link ns := by
  cases ns with
  | nil => rfl
  | cons n ns =>
    obtain ⟨hn, hns⟩ := List.forall_mem_cons.1 h
    rw [inlinesWith, inlines, inlineWith_eq o f link n hn, inlinesWith_eq o f link ns hns]

end

/-! ### Tables -/

/-- A table is laid out as without stand-ins, where they are idle. -/
theorem tableWith_eq {k : StandIns} {p : Node.Position} (o : DocxOptions) (header : Option Node)
    (rows : List Node) (m : Metadata) (h : Idle k p (.table header rows m)) :
    tableWith k o header rows = table o header rows := by
  have hcell (f : Format) (cell : Node) (hcell : Idle k .cell cell) :
      sourceCellWith k o f cell = sourceCell o f cell := by
    rw [sourceCellWith, inlinesWith_eq o f none cell.children hcell.content]
    rfl
  have hrow (row : Node × Format) (hrow : row ∈ sourceRows header rows) :
      Row.mk (row.1.children.map (sourceCellWith k o row.2)) = sourceRow o row := by
    have hcells := (h.beneath rfl row.1 (mem_of_mem_sourceRows hrow)).cells
    exact congrArg Row.mk (List.map_congr_left fun cell hc => hcell row.2 cell (hcells cell hc))
  rw [tableWith, table_eq, List.map_congr_left hrow]

/-! ### Quotes -/

mutual

/-- A node in a quote is gathered as without stand-ins, where they are idle. -/
theorem quotationWith_eq {k : StandIns} {p : Node.Position} (o : DocxOptions) (n : Node)
    (hp : p = .block ∨ p = .item) (h : Idle k p n) : quotationWith k o n = quotation o n := by
  cases n with
  | paragraph ns | heading _ ns =>
    exact congrArg Quotation.ofRuns (inlinesWith_eq o quoteFormat none ns (h.beneath rfl))
  | fencedCode | indentedCode => rfl
  | blockQuote ns | listItem ns => exact quotationsWith_eq o ns (.inl rfl) (h.beneath rfl)
  | bulletList ns | orderedList _ ns => exact quotationsWith_eq o ns (.inr rfl) (h.beneath rfl)
  | table header rows m => rw [quotationWith, quotation, tableWith_eq o header rows m h]
  -- These two belong among blocks, and it is the stand-ins that are sparing.
  | thematicBreak => exact h.quoted (.inl rfl)
  | htmlBlock => exact h.quoted (.inr rfl)
  | document | tableRow | tableCell | text | emphasis | strong | underline | code | link | image
  | softBreak | hardBreak | htmlInline =>
    obtain rfl := h.eq_empty (by rcases hp with rfl | rfl <;> nofun)
    rfl

theorem quotationsWith_eq {k : StandIns} {p : Node.Position} (o : DocxOptions) (ns : List Node)
    (hp : p = .block ∨ p = .item) (h : ∀ n ∈ ns, Idle k p n) :
    quotationsWith k o ns = quotations o ns := by
  cases ns with
  | nil => rfl
  | cons n ns =>
    obtain ⟨hn, hns⟩ := List.forall_mem_cons.1 h
    rw [quotationsWith, quotations, quotationWith_eq o n hp hn, quotationsWith_eq o ns hp hns]

end

/-! ### Blocks -/

theorem headingWith_eq {k : StandIns} (s : Setup) (level : Value) {ns : List Node}
    (h : ∀ n ∈ ns, Idle k .inline n) : headingWith k s level ns = heading s level ns := by
  rw [headingWith, inlinesWith_eq _ _ none ns h, heading]
  split <;> rfl

mutual

/-- A block is laid out as without stand-ins, where they are idle. -/
theorem blockWith_eq {k : StandIns} (s : Setup) (depth : Nat) (n : Node) (h : Idle k .block n) :
    blockWith k s depth n = block s depth n := by
  cases n with
  | document ns m =>
    obtain rfl := h.eq_empty nofun
    rw [blockWith, block, blocksWith_eq s depth ns (idle_empty _ ns)]
  | heading level ns m =>
    exact congrArg Document.ofParagraph (headingWith_eq s level (h.beneath rfl))
  | paragraph ns m =>
    rw [blockWith, block, inlinesWith_eq s.options .plain none ns (h.beneath rfl)]
    rfl
  | bulletList ns | orderedList _ ns => exact itemsWith_eq s depth _ ns (h.beneath rfl)
  | listItem ns => exact itemBlocksWith_eq s depth .unmarked ns (h.beneath rfl)
  | table header rows m => rw [blockWith, block, tableWith_eq s.options header rows m h]
  | blockQuote ns m =>
    rw [blockWith, block, quotationsWith_eq s.options ns (.inl rfl) (h.beneath rfl)]
    rfl
  | fencedCode | indentedCode | thematicBreak | htmlBlock => rfl
  | tableRow | tableCell | text | emphasis | strong | underline | code | link | image | softBreak
  | hardBreak | htmlInline =>
    obtain rfl := h.eq_empty nofun
    rfl

theorem blocksWith_eq {k : StandIns} (s : Setup) (depth : Nat) (ns : List Node)
    (h : ∀ n ∈ ns, Idle k .block n) : blocksWith k s depth ns = blocks s depth ns := by
  cases ns with
  | nil => rfl
  | cons n ns =>
    obtain ⟨hn, hns⟩ := List.forall_mem_cons.1 h
    rw [blocksWith, blocks, blockWith_eq s depth n hn, blocksWith_eq s depth ns hns]

/-- The items of a list are laid out as without stand-ins, where they are idle. -/
theorem itemsWith_eq {k : StandIns} (s : Setup) (depth : Nat) (m : Marking) (ns : List Node)
    (h : ∀ n ∈ ns, Idle k .item n) : itemsWith k s depth m ns = items s depth m ns := by
  cases ns with
  | nil => rfl
  | cons n ns =>
    obtain ⟨hn, hns⟩ := List.forall_mem_cons.1 h
    rw [itemsWith, items, itemWith_eq s depth m n hn, itemsWith_eq s depth m.next ns hns]

theorem itemWith_eq {k : StandIns} (s : Setup) (depth : Nat) (m : Marking) (n : Node)
    (h : Idle k .item n) : itemWith k s depth m n = item s depth m n := by
  cases n with
  | listItem ns | document ns | blockQuote ns =>
    exact itemBlocksWith_eq s depth m ns (h.beneath rfl)
  | _ =>
    obtain rfl := h.eq_empty nofun
    rfl

theorem itemBlocksWith_eq {k : StandIns} (s : Setup) (depth : Nat) (m : Marking) (ns : List Node)
    (h : ∀ n ∈ ns, Idle k .block n) :
    itemBlocksWith k s depth m ns = itemBlocks s depth m ns := by
  cases ns with
  | nil => rfl
  | cons n ns =>
    obtain ⟨hn, hns⟩ := List.forall_mem_cons.1 h
    have hrest := blocksWith_eq s (depth + 1) ns hns
    -- The text of an item that begins with a paragraph goes into the paragraph of its mark.
    by_cases hp : n.kind = .paragraph
    · cases n with
      | paragraph text m =>
        rw [itemBlocksWith, itemBlocks, hrest,
          inlinesWith_eq s.options .plain none text (hn.beneath rfl)]
        rfl
      | _ => cases hp
    · rw [itemBlocksWith_cons_of_ne hp, itemBlocks_cons_of_ne hp, blocksWith, blocks,
        blockWith_eq s (depth + 1) n hn, hrest]

end

/-- Without stand-ins, a document is laid out as it is. -/
theorem renderWith_empty (s : Setup) (ns : List Node) : renderWith {} s ns = render s ns :=
  blocksWith_eq s 0 ns (idle_empty _ ns)

/-- Sparing stand-ins make no difference to a well-sorted document. -/
theorem renderWith_document {k : StandIns} (hk : k.Sparing) (s : Setup) {ns : List Node}
    {m : Metadata} (h : (Node.document ns m).WellSorted) :
    renderWith k s [.document ns m] = render s [.document ns m] := by
  have hns : ∀ n ∈ ns, Idle k .block n := fun n hn =>
    .inr ⟨hk, (Node.wellSorted_iff_stands rfl).1 h n hn⟩
  rw [renderWith, render, blocksWith, blocks, blockWith, block, blocksWith_eq s 0 ns hns]
  rfl

/-- The document of any tokens is well-sorted. In it no node is met that has no rendering among
    blocks, whatever would stand in for one, and of those that give nothing to a quote or to a
    paragraph none but those that sparing stand-ins give nothing for. -/
theorem renderWith_document_ofTokens {k : StandIns} (hk : k.Sparing) (s : Setup)
    (o : MarkdownOptions) (ts : List Markdown.Token) (m : Metadata) :
    (Node.document (Node.ofTokens o ts) m).WellSorted ∧
      renderWith k s [.document (Node.ofTokens o ts) m] =
        render s [.document (Node.ofTokens o ts) m] ∧
      ∀ ns, renderWith {} s ns = render s ns :=
  have h := Node.wellSorted_document_ofTokens o ts m
  ⟨h, renderWith_document hk s h, renderWith_empty s⟩

/-- Stand-ins that show wherever they are met, and are sparing. -/
def conspicuous : StandIns where
  block _ := .ofParagraph { runs := [{ text := "?" }] }
  quoted n :=
    if n.kind = .thematicBreak ∨ n.kind = .htmlBlock then {} else .ofRuns [{ text := "?" }]
  inline _ _ n := if n.kind = .htmlInline ∨ n.isEmptyLeaf = true then [] else [{ text := "?" }]

/-- There are stand-ins that are sparing and still seen wherever they are used. -/
theorem sparing_conspicuous : conspicuous.Sparing where
  quoted _ hn := if_pos hn
  inline _ _ _ hn := if_pos hn

/-- Tokens that are out of place leave no nodes that could be met, and no stand-in shows. -/
theorem renderWith_document_ofTokens_misplaced :
    conspicuous.Sparing ∧
      let ts : List Markdown.Token :=
        [.leaf .text "a", .branch .blockQuote [.leaf .thematicBreak "", .leaf .blockHtml "<p>",
          .branch .paragraph [.leaf .text "", .leaf .inlineHtml "<b>", .leaf .thematicBreak ""]]]
      (Node.document (Node.ofTokens {} ts)).WellSorted ∧
        renderWith conspicuous {} [.document (Node.ofTokens {} ts)] =
          render {} [.document (Node.ofTokens {} ts)] ∧
        ∀ ns, renderWith {} {} ns = render {} ns :=
  ⟨sparing_conspicuous, renderWith_document_ofTokens sparing_conspicuous {} {} _ []⟩

/-- In a tree that is not well-sorted they show: text among blocks, and a table in a quote that is
    in a paragraph. -/
example :
    (renderWith conspicuous {} [.text "a", .paragraph [.blockQuote [.table none []]]]).runs =
      [{ text := "?" }, { text := "?" }] := by
  decide

end Render

end Manuscript
