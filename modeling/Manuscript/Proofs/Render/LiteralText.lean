import Manuscript.Proofs.Node.Listing
import Manuscript.Proofs.Render.Gathering
import Manuscript.Proofs.Render.Grid
import Manuscript.Proofs.Render.Texts
import Manuscript.Render

/-!
# Literal text

Nothing that a source says gets lost when it is laid out, and nothing is said twice. The literal
texts of the leaves (`literals`) are compared with the texts of the runs, part by part: the inlines,
the rows of a table, what is collected from a quote, and the blocks. Only quotes change the order,
as a table cannot stand in a paragraph: the tables in a quote come right behind the rest of it
(`moveTables`). What marks an item is no text of the source, so it is left out here.

* `perm_moveTablesList`: moving the tables in quotes keeps all texts;
* `written_inlines`, `written_table`, `says_quotations`: inlines, tables and quotes say what their
  source says;
* `written_blocks`, `written_items`, `written_itemBlocks`: and so do blocks and items.
-/

namespace Manuscript.Render

open Layout Node

mutual

/-- The literal texts of the leaves of a node, in document order. The address of a link stands
    behind its label if the label has no text. -/
def literals (o : DocxOptions) : Node → List String
  | .text s _ | .code s _ | .fencedCode s _ _ | .indentedCode s _ => [s]
  | .image url alt _ _ => [if alt = "" then "[Image: " ++ url ++ "]" else alt]
  | .softBreak _ => if o.softBreakAsSpace then [" "] else []
  | .hardBreak _ | .thematicBreak _ | .htmlBlock .. | .htmlInline .. => []
  | .link url ns _ _ =>
    let label := literalsList o ns
    if String.join label = "" then label ++ [url] else label
  | .table none rows _ => literalsList o rows
  | .table (some header) rows _ => literals o header ++ literalsList o rows
  | .document ns _ | .heading _ ns _ | .paragraph ns _ | .bulletList ns _ | .orderedList _ ns _
  | .listItem ns _ | .tableRow ns _ | .tableCell ns _ | .blockQuote ns _ | .emphasis ns _
  | .strong ns _ | .underline ns _ => literalsList o ns

/-- The literal texts of the leaves of a list of nodes, in document order. -/
def literalsList (o : DocxOptions) : List Node → List String
  | [] => []
  | n :: ns => literals o n ++ literalsList o ns

end

/-! ## Tables in quotes -/

mutual

/-- The tables in a quoted node, through nested quotes and lists, in document order. -/
def quotedTables : Node → List Node
  | .table header rows m => [.table header rows m]
  | .blockQuote ns _ | .bulletList ns _ | .orderedList _ ns _ | .listItem ns _ =>
    quotedTablesList ns
  | _ => []

/-- The tables in a list of quoted nodes, in document order. -/
def quotedTablesList : List Node → List Node
  | [] => []
  | n :: ns => quotedTables n ++ quotedTablesList ns

end

mutual

/-- A quoted node without the tables in it. -/
def withoutTables : Node → List Node
  | .table .. => []
  | .blockQuote ns m => [.blockQuote (withoutTablesList ns) m]
  | .bulletList ns m => [.bulletList (withoutTablesList ns) m]
  | .orderedList start ns m => [.orderedList start (withoutTablesList ns) m]
  | .listItem ns m => [.listItem (withoutTablesList ns) m]
  | n => [n]

/-- A list of quoted nodes without the tables in them. -/
def withoutTablesList : List Node → List Node
  | [] => []
  | n :: ns => withoutTables n ++ withoutTablesList ns

end

mutual

/-- A node in which the tables in each block quote are moved right behind the quote. -/
def moveTables : Node → List Node
  | .blockQuote ns m => .blockQuote (withoutTablesList ns) m :: quotedTablesList ns
  | .document ns m => [.document (moveTablesList ns) m]
  | .bulletList ns m => [.bulletList (moveTablesList ns) m]
  | .orderedList start ns m => [.orderedList start (moveTablesList ns) m]
  | .listItem ns m => [.listItem (moveTablesList ns) m]
  | n => [n]

/-- A list of nodes in which the tables in each block quote are moved right behind the quote. -/
def moveTablesList : List Node → List Node
  | [] => []
  | n :: ns => moveTables n ++ moveTablesList ns

end

theorem literalsList_append (o : DocxOptions) (ns ms : List Node) :
    literalsList o (ns ++ ms) = literalsList o ns ++ literalsList o ms := by
  induction ns with
  | nil => rfl
  | cons n ns ih => rw [List.cons_append, literalsList, literalsList, ih, List.append_assoc]

mutual

/-- A node without its quoted tables, and those tables after it, hold its literals in another order.
    -/
theorem perm_quotedTables (o : DocxOptions) (n : Node) :
    (literalsList o (withoutTables n) ++ literalsList o (quotedTables n)).Perm (literals o n) := by
  cases n with
  | table header rows m => simp [withoutTables, quotedTables, literalsList]
  | blockQuote ns | bulletList ns | orderedList _ ns | listItem ns =>
    rw [withoutTables, quotedTables, literalsList, literalsList, List.append_nil, literals,
      literals]
    exact perm_quotedTablesList o ns
  | _ => simp [withoutTables, quotedTables, literalsList]

/-- Taking the tables out of a quote and putting them behind it only reorders its literal texts. -/
theorem perm_quotedTablesList (o : DocxOptions) (ns : List Node) :
    (literalsList o (withoutTablesList ns) ++ literalsList o (quotedTablesList ns)).Perm
      (literalsList o ns) := by
  cases ns with
  | nil => exact .refl _
  | cons n ns =>
    rw [withoutTablesList, quotedTablesList, literalsList, literalsList_append,
      literalsList_append, List.append_assoc]
    -- The tables of the first node pass by what is left of the others.
    refine (List.Perm.append_left _ (List.perm_append_comm_assoc _ _ _)).trans ?_
    rw [← List.append_assoc]
    exact (perm_quotedTables o n).append (perm_quotedTablesList o ns)

end

mutual

/-- Moving quoted tables changes the order of literals at most. -/
theorem perm_moveTables (o : DocxOptions) (n : Node) :
    (literalsList o (moveTables n)).Perm (literals o n) := by
  cases n with
  | blockQuote ns =>
    rw [moveTables, literalsList, literals, literals]
    exact perm_quotedTablesList o ns
  | document ns | bulletList ns | orderedList _ ns | listItem ns =>
    rw [moveTables, literalsList, literalsList, List.append_nil, literals, literals]
    exact perm_moveTablesList o ns
  | _ => simp [moveTables, literalsList]

/-- Moving tables behind quotes only reorders literal texts. -/
theorem perm_moveTablesList (o : DocxOptions) (ns : List Node) :
    (literalsList o (moveTablesList ns)).Perm (literalsList o ns) := by
  cases ns with
  | nil => exact .refl _
  | cons n ns =>
    rw [moveTablesList, literalsList_append, literalsList]
    exact (perm_moveTables o n).append (perm_moveTablesList o ns)

end

/-! ## Inlines -/

/-- The runs of a text are written as that text. -/
theorem written_textRuns (s : String) (f : Format) (k : Option String) :
    Run.written (textRuns s f k) = String.join [s] := by
  by_cases h : s = "" <;> simp [textRuns, h]

mutual

/-- The runs of a leaf or of what is around it are written as its literals. -/
theorem written_inline (o : DocxOptions) (f : Format) (k : Option String) (n : Node)
    (hn : n.kind.role = .inline) (hf : n.Formed) (h : ∀ m ∈ listing n.children, m.Formed) :
    Run.written (inline o f k n) = String.join (literals o n) := by
  cases n with
  | text s | code s => exact written_textRuns s _ k
  | image url alt => simp [inline, imageText, literals, Run.written]
  | softBreak => cases h : o.softBreakAsSpace <;> simp [inline, literals, Run.written, h]
  | hardBreak | htmlInline => simp [inline, literals, Run.written]
  | link url ns =>
    have ih : Run.written (inlines o (linkFormat o f) (some url) ns) =
        String.join (literalsList o ns) :=
      written_inlines o _ _ ns (fun m hm => eq_of_beq (hf m hm)) h
    rw [inline, literals, labelled_eq]
    by_cases hl : String.join (literalsList o ns) = ""
    · -- No run of the label has text, so its runs and the address say what the address says.
      rw [hl] at ih
      rw [(Run.any_hasText_eq_false_iff _).2 ih, if_pos hl, String.join_append, hl]
      by_cases hu : url = ""
      · subst hu
        simp [ih]
      · simp [ih, hu]
    · have hany : (inlines o (linkFormat o f) (some url) ns).any Run.hasText = true := by
        rw [← Bool.not_eq_false, Run.any_hasText_eq_false_iff, ih]
        exact hl
      rw [hany, Bool.true_or, if_pos rfl, ih, if_neg hl]
  | emphasis ns | strong ns | underline ns =>
    rw [inline, literals]
    exact written_inlines o _ k ns (fun m hm => eq_of_beq (hf m hm)) h
  | document | heading | paragraph | bulletList | orderedList | listItem | table | tableRow
  | tableCell | fencedCode | indentedCode | blockQuote | thematicBreak | htmlBlock => cases hn

/-- The runs of inline nodes are written as their literals, one after the other. -/
theorem written_inlines (o : DocxOptions) (f : Format) (k : Option String) (ns : List Node)
    (hn : ∀ n ∈ ns, n.kind.role = .inline) (h : ∀ m ∈ listing ns, m.Formed) :
    Run.written (inlines o f k ns) = String.join (literalsList o ns) := by
  cases ns with
  | nil => rfl
  | cons n ns =>
    obtain ⟨hf, hc, hr⟩ := forall_mem_listing_cons.1 h
    obtain ⟨hn, hns⟩ := List.forall_mem_cons.1 hn
    rw [inlines, literalsList, Run.written_append, String.join_append,
      written_inline o f k n hn hf hc, written_inlines o f k ns hns hr]

end

/-! ## Tables -/

/-- The cells of a row are written as the literals beneath them. -/
theorem written_cells (o : DocxOptions) (f : Format) (cells : List Node)
    (hc : ∀ c ∈ cells, c.kind = .tableCell) (h : ∀ m ∈ listing cells, m.Formed) :
    Run.written ((cells.map (sourceCell o f)).flatMap (·.runs)) =
      String.join (literalsList o cells) := by
  induction cells with
  | nil => rfl
  | cons c cells ih =>
    obtain ⟨hf, hb, hr⟩ := forall_mem_listing_cons.1 h
    obtain ⟨hc, hcs⟩ := List.forall_mem_cons.1 hc
    cases c with
    | tableCell ns m =>
      have hcell : Run.written (sourceCell o f (.tableCell ns m)).runs =
          String.join (literalsList o ns) :=
        written_inlines o f none ns (fun m hm => eq_of_beq (hf m hm)) hb
      rw [List.map_cons, List.flatMap_cons, Run.written_append, hcell, ih hcs hr, literalsList,
        literals, String.join_append]
    | _ => cases hc

/-- The rows of a table are written as the literals beneath them. -/
theorem written_rows (o : DocxOptions) {rows : List (Node × Format)}
    (hr : ∀ r ∈ rows, r.1.kind = .tableRow) (h : ∀ m ∈ listing (rows.map (·.1)), m.Formed) :
    Run.written ((rows.map (sourceRow o)).flatMap fun r => r.cells.flatMap (·.runs)) =
      String.join (literalsList o (rows.map (·.1))) := by
  induction rows with
  | nil => rfl
  | cons row rows ih =>
    obtain ⟨n, f⟩ := row
    obtain ⟨hf, hb, hrs⟩ := forall_mem_listing_cons.1 h
    obtain ⟨hn, hns⟩ := List.forall_mem_cons.1 hr
    cases n with
    | tableRow cells m =>
      have hrow : Run.written ((sourceRow o (.tableRow cells m, f)).cells.flatMap (·.runs)) =
          String.join (literalsList o cells) :=
        written_cells o f cells (fun c hc => eq_of_beq (hf c hc)) hb
      rw [List.map_cons, List.flatMap_cons, Run.written_append, hrow, ih hns hrs, List.map_cons,
        literalsList, literals, String.join_append]
    | _ => cases hn

/-- The text of a table, row by row. -/
theorem written_table (o : DocxOptions) {header : Option Node} {rows : List Node} {m : Metadata}
    (hf : (Node.table header rows m).Formed)
    (h : ∀ n ∈ listing (Node.table header rows m).children, n.Formed) :
    Run.written (Block.table (table o header rows)).runs =
      String.join (literals o (.table header rows m)) := by
  have hchildren : (sourceRows header rows).map (·.1) = (Node.table header rows m).children := by
    simp [sourceRows, children, Function.comp_def]
  have hliterals : literals o (.table header rows m) =
      literalsList o (Node.table header rows m).children := by
    cases header <;> simp [literals, children, literalsList]
  rw [table_eq, Block.runs, hliterals, ← hchildren]
  refine written_rows o (fun r hr => ?_) (hchildren ▸ h)
  exact eq_of_beq (hf r.1 (hchildren ▸ List.mem_map_of_mem hr))

/-! ## Quotes -/

/-- What is put between groups does not show, if it is written as nothing. -/
theorem written_intercalate {sep : List Run} (h : Run.written sep = "") (groups : List (List Run)) :
    Run.written (sep.intercalate groups) = Run.written groups.flatten := by
  induction groups with
  | nil => rfl
  | cons g groups ih =>
    cases groups with
    | nil => simp
    | cons g' groups =>
      rw [List.intercalate_cons_cons, Run.written_append, Run.written_append, h, ih]
      simp

theorem Quotation.flatten_groups_ofRuns (rs : List Run) :
    (Quotation.ofRuns rs).groups.flatten = rs := by
  cases rs <;> simp [Quotation.ofRuns]

/-- What an item may hold a document may hold. -/
theorem admits_document_of_item {k : Kind} (h : k = .listItem) :
    Kind.document.admits k = true := by
  rw [h]
  rfl

/-- The texts of a quotation: those of its groups, and those of its tables. -/
structure Quotation.Says (q : Quotation) (text tables : List String) : Prop where
  groups : Run.written q.groups.flatten = String.join text
  tables : Run.written (q.tables.flatMap fun t => (Block.table t).runs) = String.join tables

/-- Parts of a quote say what they hold, one after the other. -/
theorem Quotation.Says.append {p q : Quotation} {xs ys us vs : List String} (hp : p.Says xs us)
    (hq : q.Says ys vs) : (p ++ q).Says (xs ++ ys) (us ++ vs) where
  groups := by
    have h : (p ++ q).groups = p.groups ++ q.groups := rfl
    rw [h, List.flatten_append, Run.written_append, String.join_append, hp.groups, hq.groups]
  tables := by
    have h : (p ++ q).tables = p.tables ++ q.tables := rfl
    rw [h, List.flatMap_append, Run.written_append, String.join_append, hp.tables, hq.tables]

/-- A group of runs says what its runs are written as. -/
theorem Quotation.Says.ofRuns {rs : List Run} {xs : List String}
    (h : Run.written rs = String.join xs) : (Quotation.ofRuns rs).Says xs [] where
  groups := by rw [Quotation.flatten_groups_ofRuns, h]
  tables := by rw [Quotation.tables_ofRuns]; rfl

mutual

/-- What is gathered of a node in a quote says its literals, with its tables apart. -/
theorem says_quotation (o : DocxOptions) (n : Node) (hn : Kind.document.admits n.kind = true)
    (hf : n.Formed) (h : ∀ m ∈ listing n.children, m.Formed) :
    (quotation o n).Says (literalsList o (withoutTables n)) (literalsList o (quotedTables n)) := by
  cases n with
  | paragraph ns | heading _ ns =>
    simp only [quotation, withoutTables, quotedTables, literalsList, literals, List.append_nil]
    exact .ofRuns (written_inlines o _ none ns (fun m hm => eq_of_beq (hf m hm)) h)
  | fencedCode code | indentedCode code =>
    simp only [quotation, withoutTables, quotedTables, literalsList, literals, List.append_nil]
    exact .ofRuns (written_textRuns code _ _)
  | table header rows m =>
    simp only [quotation, withoutTables, quotedTables, literalsList, List.append_nil]
    exact ⟨rfl, by simpa using written_table o hf h⟩
  | blockQuote ns | listItem ns =>
    simp only [quotation, withoutTables, quotedTables, literalsList, literals, List.append_nil]
    exact says_quotations o ns hf h
  | bulletList ns | orderedList _ ns =>
    simp only [quotation, withoutTables, quotedTables, literalsList, literals, List.append_nil]
    exact says_quotations o ns (fun m hm => admits_document_of_item (eq_of_beq (hf m hm))) h
  | thematicBreak | htmlBlock =>
    simp only [quotation, withoutTables, quotedTables, literalsList, literals, List.append_nil]
    exact ⟨rfl, rfl⟩
  | document | tableRow | tableCell | text | emphasis | strong | underline | code | link | image
  | softBreak | hardBreak | htmlInline => cases hn

theorem says_quotations (o : DocxOptions) (ns : List Node)
    (hn : ∀ n ∈ ns, Kind.document.admits n.kind = true) (h : ∀ m ∈ listing ns, m.Formed) :
    (quotations o ns).Says (literalsList o (withoutTablesList ns))
      (literalsList o (quotedTablesList ns)) := by
  cases ns with
  | nil => exact ⟨rfl, rfl⟩
  | cons n ns =>
    obtain ⟨hf, hc, hr⟩ := forall_mem_listing_cons.1 h
    obtain ⟨hn, hns⟩ := List.forall_mem_cons.1 hn
    rw [quotations, withoutTablesList, quotedTablesList, literalsList_append, literalsList_append]
    exact (says_quotation o n hn hf hc).append (says_quotations o ns hns hr)

end

/-- The text of the blocks of a quote, be its paragraph there or not. -/
theorem Quotation.Says.written_blocks {q : Quotation} {text tables : List String}
    (h : q.Says text tables) :
    Run.written (q.blocks.flatMap Block.runs) = String.join (text ++ tables) := by
  have hruns : Run.written q.runs = String.join text := by
    rw [Quotation.runs, written_intercalate rfl, h.groups]
  rw [String.join_append, ← h.tables, ← hruns, Quotation.blocks, List.flatMap_append,
    Run.written_append, List.flatMap_map]
  congr 1
  -- The paragraph is left out only if it has no runs, so nothing is lost with it.
  split
  · rename_i hempty
    simp only [Bool.and_eq_true, List.isEmpty_iff] at hempty
    rw [hempty.1]
    rfl
  · rw [List.flatMap_singleton]
    rfl

/-! ## Blocks -/

/-- The runs of a heading are those of its text, in some format. -/
theorem exists_runs_heading (s : Setup) (level : Value) (ns : List Node) :
    ∃ f, (heading s level ns).runs = runs s.options f ns := by
  rw [heading]
  split
  · exact ⟨.plain, rfl⟩
  · exact ⟨_, rfl⟩

/-- Without a label, the paragraph that opens an item holds the runs of its text only. -/
theorem Marking.runs_paragraph {o : DocxOptions} {m : Marking} (h : m.label o = "") (depth : Nat)
    (text : List Run) : (m.paragraph o depth text).runs = text := by
  simp [Marking.paragraph, h, textRuns]

variable {s : Setup}

mutual

/-- The runs of a block are written as its literals, with quoted tables moved behind. -/
theorem written_block (hlabel : ∀ m : Marking, m.label s.options = "") (depth : Nat) (n : Node)
    (hn : n.kind = .document ∨ Kind.document.admits n.kind = true) (hf : n.Formed)
    (h : ∀ m ∈ listing n.children, m.Formed) :
    Run.written (block s depth n).runs = String.join (literalsList s.options (moveTables n)) := by
  cases n with
  | document ns m =>
    have hns : ∀ n ∈ ns, n.kind = .document ∨ Kind.document.admits n.kind = true :=
      fun n hn => .inr (hf n hn)
    rw [block, Document.runs_append, Run.written_append, written_blocks hlabel depth ns hns h]
    simp [moveTables, literalsList, literals, Document.runs]
  | heading level ns =>
    obtain ⟨f, hruns⟩ := exists_runs_heading s level ns
    rw [block, Document.runs_ofParagraph, hruns, runs,
      written_inlines _ f none ns (fun m hm => eq_of_beq (hf m hm)) h]
    simp [moveTables, literalsList, literals]
  | paragraph ns =>
    rw [block, Document.runs_ofParagraph, runs,
      written_inlines _ _ none ns (fun m hm => eq_of_beq (hf m hm)) h]
    simp [moveTables, literalsList, literals]
  | bulletList ns | orderedList _ ns =>
    rw [block, written_items hlabel depth _ ns (fun m hm => eq_of_beq (hf m hm)) h]
    simp [moveTables, literalsList, literals]
  | listItem ns =>
    rw [block, written_itemBlocks hlabel depth _ ns hf h]
    simp [moveTables, literalsList, literals]
  | table header rows m =>
    simpa [block, moveTables, literalsList, Document.runs] using written_table s.options hf h
  | fencedCode code | indentedCode code =>
    rw [block, Document.runs_ofParagraph, codeBlock, written_textRuns]
    simp [moveTables, literalsList, literals]
  | blockQuote ns =>
    have hq := (says_quotations s.options ns hf h).written_blocks
    simpa [block, quote, moveTables, literalsList, literals, Document.runs] using hq
  | thematicBreak =>
    rw [block, Document.runs_ofParagraph]
    simp [moveTables, literalsList, literals, thematicBreak]
  | htmlBlock => simp [block, moveTables, literalsList, literals, Document.runs]
  | tableRow | tableCell | text | emphasis | strong | underline | code | link | image
  | softBreak | hardBreak | htmlInline => rcases hn with hn | hn <;> cases hn

theorem written_blocks (hlabel : ∀ m : Marking, m.label s.options = "") (depth : Nat)
    (ns : List Node)
    (hn : ∀ n ∈ ns, n.kind = .document ∨ Kind.document.admits n.kind = true)
    (h : ∀ m ∈ listing ns, m.Formed) :
    Run.written (blocks s depth ns).runs =
      String.join (literalsList s.options (moveTablesList ns)) := by
  cases ns with
  | nil => rfl
  | cons n ns =>
    obtain ⟨hf, hc, hr⟩ := forall_mem_listing_cons.1 h
    obtain ⟨hn, hns⟩ := List.forall_mem_cons.1 hn
    rw [blocks, moveTablesList, literalsList_append, String.join_append, Document.runs_append,
      Run.written_append, written_block hlabel depth n hn hf hc,
      written_blocks hlabel depth ns hns hr]

/-- The runs of the items of a list are written as their literals in the same way. -/
theorem written_items (hlabel : ∀ m : Marking, m.label s.options = "") (depth : Nat)
    (m : Marking) (ns : List Node)
    (hn : ∀ n ∈ ns, n.kind = .listItem) (h : ∀ m ∈ listing ns, m.Formed) :
    Run.written (items s depth m ns).runs =
      String.join (literalsList s.options (moveTablesList ns)) := by
  cases ns with
  | nil => rfl
  | cons n ns =>
    obtain ⟨hf, hc, hr⟩ := forall_mem_listing_cons.1 h
    obtain ⟨hn, hns⟩ := List.forall_mem_cons.1 hn
    cases n with
    | listItem ms =>
      rw [items, item, moveTablesList, literalsList_append, String.join_append,
        Document.runs_append, Run.written_append, written_itemBlocks hlabel depth m ms hf hc,
        written_items hlabel depth m.next ns hns hr]
      simp [moveTables, literalsList, literals]
    | _ => cases hn

/-- The runs of what an item holds are written as its literals in the same way. -/
theorem written_itemBlocks (hlabel : ∀ m : Marking, m.label s.options = "") (depth : Nat)
    (m : Marking) (ns : List Node)
    (hn : ∀ n ∈ ns, Kind.document.admits n.kind = true) (h : ∀ m ∈ listing ns, m.Formed) :
    Run.written (itemBlocks s depth m ns).runs =
      String.join (literalsList s.options (moveTablesList ns)) := by
  cases ns with
  | nil =>
    rw [itemBlocks, Document.runs_ofParagraph, Marking.runs_paragraph (hlabel m)]
    rfl
  | cons n ns =>
    obtain ⟨hf, hc, hr⟩ := forall_mem_listing_cons.1 h
    obtain ⟨hn, hns⟩ := List.forall_mem_cons.1 hn
    have hns : ∀ n ∈ ns, n.kind = .document ∨ Kind.document.admits n.kind = true :=
      fun n hmem => .inr (hns n hmem)
    rw [moveTablesList, literalsList_append, String.join_append]
    by_cases hp : n.kind = .paragraph
    · cases n with
      | paragraph text =>
        -- The text is moved up into the paragraph of the item.
        rw [itemBlocks, Document.runs_append, Document.runs_ofParagraph, Run.written_append,
          Marking.runs_paragraph (hlabel m), runs, written_blocks hlabel (depth + 1) ns hns hr,
          written_inlines _ _ none text (fun m hm => eq_of_beq (hf m hm)) hc]
        simp [moveTables, literalsList, literals]
      | _ => cases hp
    · rw [itemBlocks_cons_of_ne hp, Document.runs_append, Document.runs_ofParagraph,
        Marking.runs_paragraph (hlabel m), List.nil_append, blocks, Document.runs_append,
        Run.written_append, written_block hlabel (depth + 1) n (.inr hn) hf hc,
        written_blocks hlabel (depth + 1) ns hns hr]

end

/-- No text is lost, added or repeated: the texts of the runs are the literal texts of the source,
    where the tables in a block quote come right after the rest of the quote. Nothing is written
    before the text of an item here. -/
theorem written_render (s : Setup) (hglyph : s.options.bulletGlyph = "")
    (hnumber : s.options.numberOrderedLists = false) (ns : List Node)
    (hroots : ∀ n ∈ ns, n.kind = .document ∨ Kind.document.admits n.kind = true)
    (hformed : ∀ n ∈ listing ns, n.Formed) :
    Run.written (render s ns).runs = String.join (literalsList s.options (moveTablesList ns)) ∧
      (literalsList s.options (moveTablesList ns)).Perm (literalsList s.options ns) := by
  have hlabel : ∀ m : Marking, m.label s.options = "" := by
    intro m
    cases m <;> simp [Marking.label, hglyph, hnumber]
  exact ⟨written_blocks hlabel 0 ns hroots hformed, perm_moveTablesList s.options ns⟩

/-- A table in a quote in an item comes behind the paragraph that follows it in the source. -/
theorem written_render_quoted_table :
    let s : Setup := { options := { bulletGlyph := "", numberOrderedLists := false } }
    let ns : List Node := [.document [.bulletList [.listItem [.paragraph [.text "a"],
      .blockQuote [.table none [.tableRow [.tableCell [.text "t"]]],
        .paragraph [.link "u" [] none]]]]]]
    s.options.bulletGlyph = "" ∧ s.options.numberOrderedLists = false ∧
      (∀ n ∈ ns, n.kind = .document ∨ Kind.document.admits n.kind = true) ∧
      (∀ n ∈ listing ns, n.Formed) ∧ Run.written (render s ns).runs = "aut" ∧
      ["a", "u", "t"].Perm ["a", "t", "u"] := by
  intro s ns
  have hroots : ∀ n ∈ ns, n.kind = .document ∨ Kind.document.admits n.kind = true := by decide
  have hformed : ∀ n ∈ listing ns, n.Formed := by decide
  obtain ⟨htext, hperm⟩ := written_render s rfl rfl ns hroots hformed
  exact ⟨rfl, rfl, hroots, hformed, htext, hperm⟩

end Manuscript.Render
