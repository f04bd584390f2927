import Manuscript.Proofs.Render.Grid
import Manuscript.Proofs.Render.Leaves
import Manuscript.Render

/-!
# Presentation and content

Options and styles decide how a document looks, and never what it says. A tree that is laid out
twice, with any two sets of options and of styles, gives the same paragraphs and tables with the
same runs in the same order, as long as soft breaks are shown in one way (`agree_render`). What may
differ is said for each form of a block (`Agree`): the style and the emphasis of a heading, the
background and the size of code, what an item opens with, the width of a table, and everywhere the
colour of what is beneath a link.

* `leavesList_congr`: which leaves a tree has hangs on nothing but how soft breaks are shown;
* `agrees_runs`, `agree_quote`, `agree_table`: inlines, quotes and tables agree;
* `agreeAll_blocks`, `agreeAll_items`, `agreeAll_itemBlocks`: and so do blocks and items.
-/

namespace Manuscript

namespace Layout

/-- What presentation may change in a paragraph, apart from the colour of links. -/
structure Leeway where
  /-- The name of the style. -/
  style : Bool := false
  /-- The background. -/
  shading : Bool := false
  /-- Whether the runs are bold. -/
  bold : Bool := false
  /-- The size of the runs. -/
  fontSize : Bool := false

namespace Leeway

/-- A heading without its style is emphasised by its runs. -/
def heading : Leeway := { style := true, bold := true, fontSize := true }

/-- Code has a background and a size. -/
def code : Leeway := { shading := true, fontSize := true }

end Leeway

/-- Two formats agree, but for what may change and for the colour. -/
structure Format.Agrees (v : Leeway) (f g : Format) : Prop where
  italic : f.italic = g.italic
  underline : f.underline = g.underline
  monospace : f.monospace = g.monospace
  bold : v.bold = false → f.bold = g.bold
  fontSize : v.fontSize = false → f.fontSize = g.fontSize

theorem Format.Agrees.refl (v : Leeway) (f : Format) : f.Agrees v f :=
  ⟨rfl, rfl, rfl, fun _ => rfl, fun _ => rfl⟩

/-- A run lies beneath a link: it is underlined and has the colour of links, and unless it breaks
    the line it leads somewhere. -/
def Run.InLink (o : DocxOptions) (r : Run) : Prop :=
  r.format.underline = true ∧ r.format.color = some o.linkColor ∧
    (r.isBreak = false → r.hyperlink.isSome)

/-- Two runs agree, but for what may change. They have one colour, or else both lie beneath a link
    and have the colours that links have. -/
structure Run.Agrees (o o' : DocxOptions) (v : Leeway) (r r' : Run) : Prop where
  text : r.text = r'.text
  kind : r.kind = r'.kind
  hyperlink : r.hyperlink = r'.hyperlink
  imageSource : r.imageSource = r'.imageSource
  format : r.format.Agrees v r'.format
  color : r.hyperlink = none ∧ r.format.color = r'.format.color ∨ r.InLink o ∧ r'.InLink o'

/-- Two paragraphs agree run by run, but for what may change. -/
structure Paragraph.Agrees (o o' : DocxOptions) (v : Leeway) (p p' : Paragraph) : Prop where
  runs : List.Forall₂ (Run.Agrees o o' v) p.runs p'.runs
  styleName : v.style = false → p.styleName = p'.styleName
  spacingAfter : p.spacingAfter = p'.spacingAfter
  leftIndent : p.leftIndent = p'.leftIndent
  rightIndent : p.rightIndent = p'.rightIndent
  bottomBorder : p.bottomBorder = p'.bottomBorder
  shading : v.shading = false → p.shading = p'.shading
  listKind : p.listKind = p'.listKind
  listOrdinal : p.listOrdinal = p'.listOrdinal
  listLevel : p.listLevel = p'.listLevel

/-- The paragraph of an item without the label that it opens with, if there is one. -/
def Paragraph.withoutLabel (label : String) (p : Paragraph) : Paragraph :=
  if label = "" then p else { p with runs := p.runs.tail }

/-- Two tables agree row by row and cell by cell. They may differ in their width. -/
structure Table.Agrees (o o' : DocxOptions) (t t' : Table) : Prop where
  rows : List.Forall₂ (fun r r' => List.Forall₂ (Paragraph.Agrees o o' {}) r.cells r'.cells)
    t.rows t'.rows
  headerRows : t.headerRows = t'.headerRows

end Layout

namespace Render

open Layout

/-- Two blocks, laid out in two ways, agree in all that they say. -/
inductive Agree (s s' : Setup) : Block → Block → Prop
  /-- A heading may change its style, and its runs whether they are bold, and their size. -/
  | heading (level : Value) (ns : List Node)
      (same : (heading s level ns).Agrees s.options s'.options .heading (heading s' level ns)) :
      Agree s s' (.paragraph (heading s level ns)) (.paragraph (heading s' level ns))
  /-- Code may change its background, and its runs their size. -/
  | code (depth : Nat) (code : String)
      (same : (codeBlock s depth code).Agrees s.options s'.options .code
        (codeBlock s' depth code)) :
      Agree s s' (.paragraph (codeBlock s depth code)) (.paragraph (codeBlock s' depth code))
  /-- An item may change its label. -/
  | item (m : Marking) (depth : Nat) (ns : List Node)
      (same : ((m.paragraph s.options depth (runs s.options .plain ns)).withoutLabel
          (m.label s.options)).Agrees s.options s'.options {}
        ((m.paragraph s'.options depth (runs s'.options .plain ns)).withoutLabel
          (m.label s'.options))) :
      Agree s s' (.paragraph (m.paragraph s.options depth (runs s.options .plain ns)))
        (.paragraph (m.paragraph s'.options depth (runs s'.options .plain ns)))
  /-- Any other paragraph may change nothing. -/
  | paragraph {p p' : Paragraph} (unlisted : p.listKind = none)
      (same : p.Agrees s.options s'.options {} p') : Agree s s' (.paragraph p) (.paragraph p')
  | table {t t' : Table} (same : t.Agrees s.options s'.options t') :
      Agree s s' (.table t) (.table t')

/-! ## Inlines -/

section

variable {o o' : DocxOptions}

/-- What a leaf shows hangs on the one option about soft breaks only. -/
theorem shown_congr (h : o.softBreakAsSpace = o'.softBreakAsSpace) (c : Content) :
    c.shown o = c.shown o' := by
  cases c <;> simp [h]

/-- The kind of run that a leaf gives hangs on that option only. -/
theorem kind_congr (h : o.softBreakAsSpace = o'.softBreakAsSpace) (c : Content) :
    c.kind o = c.kind o' := by
  cases c <;> simp [h]

mutual

/-- The leaves of a node are the same where that option is. -/
theorem leaves_congr (h : o.softBreakAsSpace = o'.softBreakAsSpace) (above : List Node)
    (n : Node) : leaves o above n = leaves o' above n := by
  cases n with
  | link url ns title m =>
    -- Whether the address is shown is told from the label, which has the same leaves.
    have htext : Leaf.hasText o = Leaf.hasText o' := by
      funext l
      rw [Leaf.hasText, Leaf.hasText, shown_congr h]
    rw [leaves, leaves, leavesList_congr h _ ns, htext]
  | table header rows m =>
    cases header with
    | none => rw [leaves, leaves, leavesList_congr h _ rows]
    | some header => rw [leaves, leaves, leaves_congr h _ header, leavesList_congr h _ rows]
  | document ns | heading _ ns | paragraph ns | bulletList ns | orderedList _ ns | listItem ns
  | tableRow ns | tableCell ns | blockQuote ns | emphasis ns | strong ns | underline ns =>
    rw [leaves, leaves, leavesList_congr h _ ns]
  | text | code | image | softBreak | hardBreak | htmlInline | htmlBlock | fencedCode
  | indentedCode | thematicBreak => simp only [leaves]

/-- Which leaves there are hangs on nothing but how soft breaks are shown. -/
theorem leavesList_congr (h : o.softBreakAsSpace = o'.softBreakAsSpace) (above ns : List Node) :
    leavesList o above ns = leavesList o' above ns := by
  cases ns with
  | nil => rfl
  | cons n ns => rw [leavesList, leavesList, leaves_congr h above n, leavesList_congr h above ns]

end

/-- A leaf belongs to no link if there is none above it. -/
theorem linkAbove_eq_none_iff (above : List Node) :
    linkAbove above = none ↔ ∀ n ∈ above, n.kind ≠ .link := by
  rw [linkAbove, List.findSome?_eq_none_iff]
  refine forall₂_congr fun n _ => ?_
  cases n <;> simp [address?, Node.kind]

variable {v : Leeway} {f f' : Format}

/-- The runs of a leaf agree where the formats do that they are laid out under. -/
theorem Leaf.agrees_run (h : o.softBreakAsSpace = o'.softBreakAsSpace) (hf : f.Agrees v f')
    (hcolor : f.color = f'.color) (l : Leaf) : (l.run o f).Agrees o o' v (l.run o' f') := by
  have g := l.gives_run o f
  have g' := l.gives_run o' f'
  have hkind : (l.run o f).kind = (l.run o' f').kind := kind_congr h l.content
  have hlink : (l.run o f).hyperlink = (l.run o' f').hyperlink := by
    rw [g.hyperlink, g'.hyperlink, Run.isBreak, Run.isBreak, hkind]
  refine ⟨shown_congr h l.content, hkind, hlink, rfl,
    ⟨?_, ?_, ?_, fun hv => ?_, fun hv => ?_⟩, ?_⟩
  · rw [Bool.eq_iff_iff, g.italic, g'.italic, hf.italic]
  · rw [Bool.eq_iff_iff, g.underline, g'.underline, hf.underline]
  · rw [Bool.eq_iff_iff, g.monospace, g'.monospace, hf.monospace]
  · rw [Bool.eq_iff_iff, g.bold, g'.bold, hf.bold hv]
  · rw [g.fontSize, g'.fontSize, hf.fontSize hv]
  · by_cases hlinked : ∃ n ∈ l.above, n.kind = .link
    · have hin (o : DocxOptions) (f : Format) : (l.run o f).InLink o := by
        have g := l.gives_run o f
        obtain ⟨n, hn, hkind⟩ := hlinked
        refine ⟨g.underline.2 (.inr ⟨n, hn, .inr hkind⟩), ?_, fun hbreak => ?_⟩
        · rw [g.color, if_pos ⟨n, hn, hkind⟩]
        · rw [g.hyperlink, hbreak, if_neg Bool.false_ne_true, Option.isSome_iff_ne_none]
          exact fun hnone => (linkAbove_eq_none_iff _).1 hnone n hn hkind
      exact .inr ⟨hin o f, hin o' f'⟩
    · have hnone : linkAbove l.above = none :=
        (linkAbove_eq_none_iff _).2 fun n hn hkind => hlinked ⟨n, hn, hkind⟩
      refine .inl ⟨?_, ?_⟩
      · rw [g.hyperlink, hnone, ite_self]
      · rw [g.color, g'.color, if_neg hlinked, if_neg hlinked, hcolor]

/-- Inlines agree where the formats do that they are laid out under. -/
theorem agrees_runs (h : o.softBreakAsSpace = o'.softBreakAsSpace) (hf : f.Agrees v f')
    (hcolor : f.color = f'.color) (ns : List Node) :
    List.Forall₂ (Run.Agrees o o' v) (runs o f ns) (runs o' f' ns) := by
  have hruns : runs o f ns = (leavesList o [] ns).map (Leaf.run o f) :=
    inlines_eq_map_leaves o f [] ns
  have hruns' : runs o' f' ns = (leavesList o [] ns).map (Leaf.run o' f') := by
    rw [leavesList_congr h]
    exact inlines_eq_map_leaves o' f' [] ns
  rw [hruns, hruns', List.forall₂_map_left_iff, List.forall₂_map_right_iff, List.forall₂_same]
  exact fun l _ => l.agrees_run h hf hcolor

/-- Runs of one text agree if their formats do. -/
theorem agrees_textRuns (hf : f.Agrees v f') (hcolor : f.color = f'.color) (text : String) :
    List.Forall₂ (Run.Agrees o o' v) (textRuns text f none) (textRuns text f' none) := by
  rw [textRuns, textRuns]
  split
  · exact .nil
  · exact .cons ⟨rfl, rfl, rfl, rfl, hf, .inl ⟨rfl, hcolor⟩⟩ .nil

/-! ## Tables -/

/-- A table is laid out alike, cell by cell. -/
theorem agree_table (h : o.softBreakAsSpace = o'.softBreakAsSpace) (header : Option Node)
    (rows : List Node) : (table o header rows).Agrees o o' (table o' header rows) := by
  rw [table_eq, table_eq]
  refine ⟨?_, rfl⟩
  rw [List.forall₂_map_left_iff, List.forall₂_map_right_iff, List.forall₂_same]
  intro row _
  rw [sourceRow, sourceRow, List.forall₂_map_left_iff, List.forall₂_map_right_iff,
    List.forall₂_same]
  exact fun cell _ => ⟨agrees_runs h (.refl {} row.2) rfl cell.children, fun _ => rfl, rfl, rfl,
    rfl, rfl, fun _ => rfl, rfl, rfl, rfl⟩

/-! ## Quotes -/

theorem isEmpty_eq_of_forall₂ {R : α → β → Prop} {as : List α} {bs : List β}
    (h : List.Forall₂ R as bs) : as.isEmpty = bs.isEmpty := by
  cases h <;> rfl

/-- Lists that are related group by group are related with a separator between the groups. -/
theorem forall₂_intercalate {R : α → β → Prop} {sep : List α} {sep' : List β}
    (hsep : List.Forall₂ R sep sep') {gs : List (List α)} {gs' : List (List β)}
    (h : List.Forall₂ (List.Forall₂ R) gs gs') :
    List.Forall₂ R (sep.intercalate gs) (sep'.intercalate gs') := by
  induction h with
  | nil => exact .nil
  | cons hg hgs ih =>
    cases hgs with
    | nil => simpa using hg
    | cons hg' hgs =>
      rw [List.intercalate_cons_cons, List.intercalate_cons_cons]
      exact List.rel_append (List.rel_append hg hsep) ih

/-- Two quotations agree group by group and table by table. -/
structure Quotation.Agrees (o o' : DocxOptions) (q q' : Quotation) : Prop where
  groups : List.Forall₂ (List.Forall₂ (Run.Agrees o o' {})) q.groups q'.groups
  tables : List.Forall₂ (Table.Agrees o o') q.tables q'.tables

theorem Quotation.Agrees.empty : Quotation.Agrees o o' {} {} :=
  ⟨.nil, .nil⟩

/-- Parts of a quote agree if each of them does. -/
theorem Quotation.Agrees.append {p p' q q' : Quotation} (hp : p.Agrees o o' p')
    (hq : q.Agrees o o' q') : (p ++ q).Agrees o o' (p' ++ q') :=
  ⟨List.rel_append hp.groups hq.groups, List.rel_append hp.tables hq.tables⟩

theorem Quotation.Agrees.ofRuns {rs rs' : List Run}
    (h : List.Forall₂ (Run.Agrees o o' {}) rs rs') :
    (Quotation.ofRuns rs).Agrees o o' (Quotation.ofRuns rs') := by
  rw [Quotation.ofRuns, Quotation.ofRuns, isEmpty_eq_of_forall₂ h]
  split
  · exact .empty
  · exact ⟨.cons h .nil, .nil⟩

mutual

/-- What is gathered of a node in a quote agrees, whatever the styles. -/
theorem agrees_quotation (h : o.softBreakAsSpace = o'.softBreakAsSpace) (n : Node) :
    (quotation o n).Agrees o o' (quotation o' n) := by
  cases n with
  | paragraph ns | heading _ ns => exact .ofRuns (agrees_runs h (.refl {} quoteFormat) rfl ns)
  | fencedCode code | indentedCode code => exact .ofRuns (agrees_textRuns (.refl {} _) rfl code)
  | blockQuote ns | bulletList ns | orderedList _ ns | listItem ns =>
    exact agrees_quotations h ns
  | table header rows => exact ⟨.nil, .cons (agree_table h header rows) .nil⟩
  | document | tableRow | tableCell | thematicBreak | htmlBlock | text | emphasis | strong
  | underline | code | link | image | softBreak | hardBreak | htmlInline => exact .empty

theorem agrees_quotations (h : o.softBreakAsSpace = o'.softBreakAsSpace) (ns : List Node) :
    (quotations o ns).Agrees o o' (quotations o' ns) := by
  cases ns with
  | nil => exact .empty
  | cons n ns => exact (agrees_quotation h n).append (agrees_quotations h ns)

end

theorem Quotation.Agrees.runs {q q' : Quotation} (h : q.Agrees o o' q') :
    List.Forall₂ (Run.Agrees o o' {}) q.runs q'.runs :=
  forall₂_intercalate
    (.cons ⟨rfl, rfl, rfl, rfl, .refl _ _, .inl ⟨rfl, rfl⟩⟩ .nil) h.groups

end

variable {s s' : Setup}

/-- A quote has its paragraph in both documents or in none, and the same tables after it. -/
theorem agree_quote (h : s.options.softBreakAsSpace = s'.options.softBreakAsSpace)
    (ns : List Node) :
    List.Forall₂ (Agree s s') (quote s.options ns) (quote s'.options ns) := by
  have hq := agrees_quotations h ns
  rw [quote, quote, Quotation.blocks, Quotation.blocks, isEmpty_eq_of_forall₂ hq.runs,
    isEmpty_eq_of_forall₂ hq.tables]
  refine List.rel_append ?_ ?_
  · split
    · exact .nil
    · exact .cons (.paragraph rfl ⟨hq.runs, fun _ => rfl, rfl, rfl, rfl, rfl, fun _ => rfl, rfl,
        rfl, rfl⟩) .nil
  · rw [List.forall₂_map_left_iff, List.forall₂_map_right_iff]
    exact hq.tables.imp fun _ _ => .table

/-! ## Blocks -/

/-- Two documents have the same properties, and agree block by block. -/
structure AgreeAll (s s' : Setup) (d d' : Document) : Prop where
  metadata : d.metadata = d'.metadata
  blocks : List.Forall₂ (Agree s s') d.blocks d'.blocks

/-- Documents agree if their parts do. -/
theorem AgreeAll.append {d d' e e' : Document} (hd : AgreeAll s s' d d')
    (he : AgreeAll s s' e e') : AgreeAll s s' (d ++ e) (d' ++ e') where
  metadata := congrArg₂ Metadata.update hd.metadata he.metadata
  blocks := List.rel_append hd.blocks he.blocks

theorem agreeAll_empty (m : Metadata) : AgreeAll s s' { metadata := m } { metadata := m } :=
  ⟨rfl, .nil⟩

theorem agreeAll_ofParagraph {p p' : Paragraph} (h : Agree s s' (.paragraph p) (.paragraph p')) :
    AgreeAll s s' (.ofParagraph p) (.ofParagraph p') :=
  ⟨rfl, .cons h .nil⟩

/-- A heading has a style, or its runs are bold and have a size. -/
theorem exists_heading_eq (s : Setup) (level : Value) (ns : List Node) :
    ∃ style bold fontSize, heading s level ns =
      { runs := runs s.options { bold, fontSize } ns, styleName := style,
        spacingAfter := some 200 } := by
  rw [heading]
  split
  · exact ⟨_, false, none, rfl⟩
  · exact ⟨none, true, some _, rfl⟩

/-- A heading may differ in its style, and then in weight and size. -/
theorem agree_heading (h : s.options.softBreakAsSpace = s'.options.softBreakAsSpace)
    (level : Value) (ns : List Node) :
    Agree s s' (.paragraph (heading s level ns)) (.paragraph (heading s' level ns)) := by
  refine .heading level ns ?_
  obtain ⟨style, bold, size, heq⟩ := exists_heading_eq s level ns
  obtain ⟨style', bold', size', heq'⟩ := exists_heading_eq s' level ns
  have hformat : ({ bold, fontSize := size } : Format).Agrees .heading
      { bold := bold', fontSize := size' } := ⟨rfl, rfl, rfl, nofun, nofun⟩
  rw [heq, heq']
  exact ⟨agrees_runs h hformat rfl ns, nofun, rfl, rfl, rfl, rfl, fun _ => rfl, rfl, rfl, rfl⟩

/-- A paragraph is laid out alike. -/
theorem agree_paragraph (h : s.options.softBreakAsSpace = s'.options.softBreakAsSpace)
    (depth : Nat) (ns : List Node) :
    AgreeAll s s' (block s depth (.paragraph ns m)) (block s' depth (.paragraph ns m)) := by
  rw [block, block]
  exact agreeAll_ofParagraph (.paragraph rfl ⟨agrees_runs h (.refl {} .plain) rfl ns,
    fun _ => rfl, rfl, rfl, rfl, rfl, fun _ => rfl, rfl, rfl, rfl⟩)

/-- A block of code may differ in its background and in the size of its run. -/
theorem agree_codeBlock (depth : Nat) (code : String) :
    Agree s s' (.paragraph (codeBlock s depth code)) (.paragraph (codeBlock s' depth code)) := by
  have hformat : Format.Agrees .code
      (Format.plain.merge [.monospace true, .fontSize (some s.options.codeFontSize)])
      (Format.plain.merge [.monospace true, .fontSize (some s'.options.codeFontSize)]) :=
    ⟨rfl, rfl, rfl, fun _ => rfl, nofun⟩
  exact .code depth code ⟨agrees_textRuns hformat rfl code, fun _ => rfl, rfl, rfl, rfl, rfl,
    nofun, rfl, rfl, rfl⟩

theorem agree_thematicBreak : Agree s s' (.paragraph thematicBreak) (.paragraph thematicBreak) :=
  .paragraph rfl ⟨.nil, fun _ => rfl, rfl, rfl, rfl, rfl, fun _ => rfl, rfl, rfl, rfl⟩

/-- Without its label an item opens with its text. -/
theorem withoutLabel_paragraph (o : DocxOptions) (m : Marking) (depth : Nat) (text : List Run) :
    ((m.paragraph o depth text).withoutLabel (m.label o)) =
      { m.paragraph o depth text with runs := text } := by
  by_cases hlabel : m.label o = ""
  · simp [Paragraph.withoutLabel, Marking.paragraph, textRuns, hlabel]
  · simp [Paragraph.withoutLabel, Marking.paragraph, textRuns, hlabel]

/-- An item may differ in its label. -/
theorem agree_item (h : s.options.softBreakAsSpace = s'.options.softBreakAsSpace)
    (m : Marking) (depth : Nat) (text : List Node) :
    Agree s s' (.paragraph (m.paragraph s.options depth (runs s.options .plain text)))
      (.paragraph (m.paragraph s'.options depth (runs s'.options .plain text))) := by
  refine .item m depth text ?_
  rw [withoutLabel_paragraph, withoutLabel_paragraph]
  exact ⟨agrees_runs h (.refl {} .plain) rfl text, fun _ => rfl, rfl, rfl, rfl, rfl, fun _ => rfl,
    rfl, rfl, rfl⟩

mutual

/-- The blocks of a node agree, by cases on the node. -/
theorem agreeAll_block (h : s.options.softBreakAsSpace = s'.options.softBreakAsSpace)
    (depth : Nat) (n : Node) : AgreeAll s s' (block s depth n) (block s' depth n) := by
  cases n with
  | paragraph ns => exact agree_paragraph h depth ns
  | document ns m =>
    rw [block, block]
    exact (agreeAll_empty m).append (agreeAll_blocks h depth ns)
  | heading level ns =>
    rw [block, block]
    exact agreeAll_ofParagraph (agree_heading h level ns)
  | bulletList ns | orderedList _ ns =>
    rw [block, block]
    exact agreeAll_items h depth _ ns
  | listItem ns =>
    rw [block, block]
    exact agreeAll_itemBlocks h depth _ ns
  | table header rows =>
    rw [block, block]
    exact ⟨rfl, .cons (.table (agree_table h header rows)) .nil⟩
  | fencedCode code | indentedCode code =>
    rw [block, block]
    exact agreeAll_ofParagraph (agree_codeBlock depth code)
  | blockQuote ns =>
    rw [block, block]
    exact ⟨rfl, agree_quote h ns⟩
  | thematicBreak =>
    rw [block, block]
    exact agreeAll_ofParagraph agree_thematicBreak
  | tableRow | tableCell | htmlBlock | text | emphasis | strong | underline | code | link | image
  | softBreak | hardBreak | htmlInline =>
    simp only [block]
    exact agreeAll_empty _

theorem agreeAll_blocks (h : s.options.softBreakAsSpace = s'.options.softBreakAsSpace)
    (depth : Nat) (ns : List Node) :
    AgreeAll s s' (blocks s depth ns) (blocks s' depth ns) := by
  cases ns with
  | nil =>
    rw [blocks, blocks]
    exact agreeAll_empty _
  | cons n ns =>
    rw [blocks, blocks]
    exact (agreeAll_block h depth n).append (agreeAll_blocks h depth ns)

/-- The blocks of the items of a list agree. -/
theorem agreeAll_items (h : s.options.softBreakAsSpace = s'.options.softBreakAsSpace)
    (depth : Nat) (m : Marking) (ns : List Node) :
    AgreeAll s s' (items s depth m ns) (items s' depth m ns) := by
  cases ns with
  | nil =>
    rw [items, items]
    exact agreeAll_empty _
  | cons n ns =>
    rw [items, items]
    exact (agreeAll_item h depth m n).append (agreeAll_items h depth m.next ns)

theorem agreeAll_item (h : s.options.softBreakAsSpace = s'.options.softBreakAsSpace)
    (depth : Nat) (m : Marking) (n : Node) :
    AgreeAll s s' (item s depth m n) (item s' depth m n) := by
  cases n with
  | listItem ns | document ns | blockQuote ns =>
    rw [item, item]
    exact agreeAll_itemBlocks h depth m ns
  | _ =>
    simp only [item]
    exact agreeAll_ofParagraph (agree_item h m depth [])

/-- The blocks of what an item holds agree. -/
theorem agreeAll_itemBlocks (h : s.options.softBreakAsSpace = s'.options.softBreakAsSpace)
    (depth : Nat) (m : Marking) (ns : List Node) :
    AgreeAll s s' (itemBlocks s depth m ns) (itemBlocks s' depth m ns) := by
  cases ns with
  | nil =>
    rw [itemBlocks, itemBlocks]
    exact agreeAll_ofParagraph (agree_item h m depth [])
  | cons n ns =>
    by_cases hn : n.kind = .paragraph
    · cases n with
      | paragraph text =>
        rw [itemBlocks, itemBlocks]
        exact (agreeAll_ofParagraph (agree_item h m depth text)).append
          (agreeAll_blocks h (depth + 1) ns)
      | _ => cases hn
    · rw [itemBlocks_cons_of_ne hn, itemBlocks_cons_of_ne hn, blocks, blocks]
      exact (agreeAll_ofParagraph (agree_item h m depth [])).append
        ((agreeAll_block h (depth + 1) n).append (agreeAll_blocks h (depth + 1) ns))

end

/-- Presentation never changes content: laid out with any two sets of options and of styles, a tree
    gives documents that agree, as long as soft breaks are shown in one way. -/
theorem agree_render {s s' : Setup}
    (h : s.options.softBreakAsSpace = s'.options.softBreakAsSpace) (ns : List Node) :
    (render s ns).metadata = (render s' ns).metadata ∧
      List.Forall₂ (Agree s s') (render s ns).blocks (render s' ns).blocks :=
  ⟨(agreeAll_blocks h 0 ns).metadata, (agreeAll_blocks h 0 ns).blocks⟩

/-- A heading whose style is missing and a bullet of another glyph, with a link of another
    colour: the glyph is a text of its own in the one document and not there in the other. -/
theorem agree_render_restyled :
    let s : Setup := {}
    let s' : Setup :=
      { options := { bulletGlyph := "", linkColor := "FF0000", tableWidth := 100 },
        styles := some [] }
    let ns : List Node := [.heading (.number 2) [.text "a"],
      .bulletList [.listItem [.paragraph [.link "u" [.text "b"] none]]]]
    s.options.softBreakAsSpace = s'.options.softBreakAsSpace ∧
      (render s ns).paragraphs.map (fun p => p.runs.map (·.text)) = [["a"], ["• ", "b"]] ∧
      (render s' ns).paragraphs.map (fun p => p.runs.map (·.text)) = [["a"], ["b"]] ∧
      (render s ns).metadata = (render s' ns).metadata ∧
      List.Forall₂ (Agree s s') (render s ns).blocks (render s' ns).blocks := by
  intro s s' ns
  have h : s.options.softBreakAsSpace = s'.options.softBreakAsSpace := rfl
  exact ⟨h, by decide, by decide, agree_render h ns⟩

end Render

end Manuscript
