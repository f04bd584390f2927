import Manuscript.Proofs.Render.Grid
import Manuscript.Proofs.Render.Leaves
import Manuscript.Proofs.Render.Walk

/-!
# Flattened quotes

A quote is written as one paragraph and the tables that are in it. Whatever wraps what is quoted,
nested quotes, lists and items, leaves no trace: when such a node is replaced by the nodes that it
holds, somewhere in a quote (`Opens`), nothing changes in what is written
(`visit_blockQuote_flattens`).

* `inlines_eq_of_opens`, `map_sourceCell_eq_of_opens`, `map_sourceRow_eq_of_opens`,
  `quotations_eq_of_opens`: opening a node changes no inlines, no cells, no rows and no quotation;
* `italic_of_mem_intercalate`: all that is quoted is in italics.
-/

namespace Manuscript

namespace Node

/-- A node that only wraps others where it is quoted. -/
def Wraps (n : Node) : Prop :=
  n.kind ∈ [.blockQuote, .bulletList, .orderedList, .listItem]

instance (n : Node) : Decidable n.Wraps :=
  inferInstanceAs (Decidable (_ ∈ _))

/-- A node that holds other nodes than before. The first of those of a table is its header, if it
    has one. -/
def withChildren : Node → List Node → Node
  | .document _ m, ns => .document ns m
  | .heading level _ m, ns => .heading level ns m
  | .paragraph _ m, ns => .paragraph ns m
  | .bulletList _ m, ns => .bulletList ns m
  | .orderedList start _ m, ns => .orderedList start ns m
  | .listItem _ m, ns => .listItem ns m
  | .table none _ m, ns => .table none ns m
  | .table (some _) _ m, ns => .table ns.head? ns.tail m
  | .tableRow _ m, ns => .tableRow ns m
  | .tableCell _ m, ns => .tableCell ns m
  | .blockQuote _ m, ns => .blockQuote ns m
  | .emphasis _ m, ns => .emphasis ns m
  | .strong _ m, ns => .strong ns m
  | .underline _ m, ns => .underline ns m
  | .link url _ title m, ns => .link url ns title m
  | n, _ => n

/-- The kind that the nodes beneath a table or a row must have. -/
def Kind.only? : Kind → Option Kind
  | .table => some .tableRow
  | .tableRow => some .tableCell
  | _ => none

/-- One node that wraps others is replaced by those, among the given nodes or beneath one of them.
    The rows of a table and the cells of a row, which must be of one kind, stay what they are. -/
inductive Opens : Option Kind → List Node → List Node → Prop
  | wrapper {n : Node} (h : n.Wraps) (ns : List Node) : Opens none (n :: ns) (n.children ++ ns)
  | beneath {n : Node} {cs : List Node} (hkind : ∀ k ∈ only, n.kind = k)
      (h : Opens n.kind.only? n.children cs) (ns : List Node) :
      Opens only (n :: ns) (n.withChildren cs :: ns)
  | later (n : Node) (h : Opens only ns ms) : Opens only (n :: ns) (n :: ms)

end Node

namespace Render

open Layout Node

/-! ## Opening a node -/

variable {o : DocxOptions} {n : Node} {ns ms cs : List Node}

theorem inline_of_wraps (h : n.Wraps) (o : DocxOptions) (f : Format) (link : Option String) :
    inline o f link n = inlines o f link n.children := by
  cases n <;> simp_all [Wraps, Node.kind, inline, children]

theorem inline_withChildren (h : ∀ f link, inlines o f link cs = inlines o f link n.children)
    (f : Format) (link : Option String) :
    inline o f link (n.withChildren cs) = inline o f link n := by
  cases n with
  | table header rows m =>
    cases header with
    | none =>
      rw [withChildren, inline, inline]
      exact h f link
    | some header =>
      refine Eq.trans ?_ (h f link)
      cases cs <;> rfl
  | link url ns title m =>
    rw [withChildren, inline, inline, h]
    rfl
  | document | heading | paragraph | bulletList | orderedList | listItem | tableRow | tableCell
  | blockQuote | emphasis | strong | underline =>
    rw [withChildren, inline, inline, h]
    rfl
  | fencedCode | indentedCode | thematicBreak | htmlBlock | text | code | image | softBreak
  | hardBreak | htmlInline => rfl

/-- Opening a node changes no inlines. -/
theorem inlines_eq_of_opens (h : Opens only ns ms) (o : DocxOptions) (f : Format)
    (link : Option String) : inlines o f link ms = inlines o f link ns := by
  induction h generalizing f link with
  | wrapper hwraps ns => rw [inlines_append, inlines, inline_of_wraps hwraps]
  | beneath _ _ ns ih => rw [inlines, inlines, inline_withChildren ih]
  | later n _ ih => rw [inlines, inlines, ih]

/-- Opening a node changes no cells. -/
theorem map_sourceCell_eq_of_opens (h : Opens (some .tableCell) ns ms) (o : DocxOptions)
    (f : Format) : ms.map (sourceCell o f) = ns.map (sourceCell o f) := by
  generalize honly : some Kind.tableCell = only at h
  induction h with
  | wrapper => cases honly
  | @beneath _ n cs hkind h ns =>
    subst honly
    cases n with
    | tableCell content m =>
      have hruns : runs o f cs = runs o f content := inlines_eq_of_opens h o f none
      exact congrArg (fun rs => ({ runs := rs } : Paragraph) :: ns.map (sourceCell o f)) hruns
    | _ => cases hkind _ rfl
  | later n _ ih => rw [List.map_cons, List.map_cons, ih honly]

/-- Opening a node changes no rows. -/
theorem map_sourceRow_eq_of_opens (h : Opens (some .tableRow) ns ms) (o : DocxOptions)
    (f : Format) :
    (ms.map fun row => sourceRow o (row, f)) = ns.map fun row => sourceRow o (row, f) := by
  generalize honly : some Kind.tableRow = only at h
  induction h with
  | wrapper => cases honly
  | @beneath _ n cs hkind h ns =>
    subst honly
    cases n with
    | tableRow cells m =>
      have hcells : cs.map (sourceCell o f) = cells.map (sourceCell o f) :=
        map_sourceCell_eq_of_opens h o f
      exact congrArg (fun ps => Row.mk ps :: ns.map fun row => sourceRow o (row, f)) hcells
    | _ => cases hkind _ rfl
  | later n _ ih => rw [List.map_cons, List.map_cons, ih honly]

/-- Opening a node changes no table. -/
theorem quotation_table_eq_of_opens {header : Option Node} {rows : List Node} {m : Metadata}
    (h : Opens (some .tableRow) (Node.table header rows m).children cs) (o : DocxOptions) :
    quotation o ((Node.table header rows m).withChildren cs) =
      quotation o (.table header rows m) := by
  have hrows (f : Format) := map_sourceRow_eq_of_opens h o f
  cases header with
  | none =>
    have hplain := hrows .plain
    rw [withChildren, quotation, quotation, table_eq, table_eq, sourceRows, sourceRows]
    simpa [children, Function.comp_def] using hplain
  | some header =>
    cases cs with
    | nil => simpa [children] using hrows .plain
    | cons header' rows' =>
      have hbold := hrows .boldface
      have hplain := hrows .plain
      simp only [children, Option.toList_some, List.cons_append, List.nil_append, List.map_cons,
        List.cons.injEq] at hbold hplain
      rw [withChildren, quotation, quotation, table_eq, table_eq, sourceRows, sourceRows]
      simp [Function.comp_def, hbold.1, hplain.2]

theorem quotations_append (o : DocxOptions) (ns ms : List Node) :
    quotations o (ns ++ ms) = quotations o ns ++ quotations o ms := by
  induction ns with
  | nil => rfl
  | cons n ns ih =>
    rw [List.cons_append, quotations, quotations, ih]
    exact congrArg₂ Quotation.mk (List.append_assoc ..).symm (List.append_assoc ..).symm

theorem quotation_of_wraps (h : n.Wraps) (o : DocxOptions) :
    quotation o n = quotations o n.children := by
  cases n <;> simp_all [Wraps, Node.kind, quotation, children]

/-- Opening a node changes no quotation. -/
theorem quotations_eq_of_opens (h : Opens none ns ms) (o : DocxOptions) :
    quotations o ms = quotations o ns := by
  generalize honly : none = only at h
  induction h with
  | wrapper hwraps ns => rw [quotations_append, quotations, quotation_of_wraps hwraps]
  | later n _ ih => rw [quotations, quotations, ih honly]
  | @beneath _ n cs _ h ns ih =>
    rw [quotations, quotations]
    congr 1
    cases n with
    | blockQuote | bulletList | orderedList | listItem => exact ih rfl
    | paragraph | heading =>
      rw [withChildren, quotation, quotation, runs, inlines_eq_of_opens h]
      rfl
    | table => exact quotation_table_eq_of_opens h o
    | document | tableRow | tableCell | emphasis | strong | underline | link | fencedCode
    | indentedCode | thematicBreak | htmlBlock | text | code | image | softBreak | hardBreak
    | htmlInline => rfl

/-! ## Italics -/

theorem italic_of_mem_runs {f : Format} (hf : f.italic = true) (o : DocxOptions) (ns : List Node) :
    ∀ r ∈ runs o f ns, r.format.italic = true := by
  have hruns : runs o f ns = (leavesList o [] ns).map (Leaf.run o f) :=
    inlines_eq_map_leaves o f [] ns
  rw [hruns, List.forall_mem_map]
  exact fun l _ => (l.gives_run o f).italic.2 (.inl hf)

theorem italic_of_mem_textRuns {f : Format} (hf : f.italic = true) (text : String)
    (link : Option String) : ∀ r ∈ textRuns text f link, r.format.italic = true := by
  by_cases h : text = "" <;> simp [textRuns, h, hf]

theorem italic_of_mem_group (o : DocxOptions) (n : Node) :
    ∀ r ∈ group o n, r.format.italic = true := by
  cases n with
  | paragraph ns | heading _ ns => exact italic_of_mem_runs rfl o ns
  | fencedCode code | indentedCode code => exact italic_of_mem_textRuns rfl code none
  | _ => simp [group]

theorem forall_mem_intercalate {P : α → Prop} {sep : List α} {gs : List (List α)}
    (hsep : ∀ a ∈ sep, P a) (hgs : ∀ g ∈ gs, ∀ a ∈ g, P a) : ∀ a ∈ sep.intercalate gs, P a := by
  cases gs with
  | nil => nofun
  | cons g gs =>
    rw [List.forall_mem_cons] at hgs
    rw [intercalate_cons_eq, List.forall_mem_append]
    refine ⟨hgs.1, fun a ha => ?_⟩
    obtain ⟨g', hg', ha⟩ := List.mem_flatMap.1 ha
    exact (List.mem_append.1 ha).elim (hsep a) (hgs.2 g' hg' a)

/-- All that is quoted is in italics. -/
theorem italic_of_mem_intercalate (o : DocxOptions) (ns : List Node) :
    ∀ r ∈ [quoteBreak].intercalate (groups o ns), r.format.italic = true := by
  refine forall_mem_intercalate (List.forall_mem_singleton.2 rfl) fun g hg => ?_
  obtain ⟨n, -, rfl⟩ := List.mem_map.1 (List.mem_filter.1 hg).1
  exact italic_of_mem_group o n

end Render

/-! ## What is written -/

namespace Renderer

open Layout Render Node

/-- A quote adds its blocks. -/
theorem run_visit_blockQuote (s : Setup) (ns : List Node) (m : Metadata) (r : Renderer) :
    (visit s (.blockQuote ns m)).run.run r =
      (.ok (), r.extended { blocks := quote s.options ns }) := by
  obtain ⟨f, hf, hok⟩ := lays_writeQuote s (gatherAll s.options {} ns)
  rw [visit, hf.run, hok trivial, blocks_gatherAll]

/-- Quotes are flattened exactly. What a quote adds to the document is a paragraph, unless that
    would be empty and there is a table, and then each table that is quoted. The paragraph has the
    groups of runs that are quoted, with one break between each two of them, all in italics. When
    one of the nodes that wrap what is quoted is replaced by the nodes that it holds, nothing
    changes. -/
theorem visit_blockQuote_flattens (s : Setup) (ns : List Node) (m : Metadata) :
    let text := [quoteBreak].intercalate (groups s.options ns)
    let paragraph : Paragraph :=
      { runs := text, spacingAfter := some 150, leftIndent := some 720, rightIndent := some 360 }
    let tables := (sourceTables ns).map fun t => table s.options t.1 t.2
    (∀ r : Renderer, (visit s (.blockQuote ns m)).run.run r =
      (.ok (), { r with documents := r.documents.modify r.current fun d =>
        { d with blocks := d.blocks ++
            ((if text = [] ∧ tables ≠ [] then [] else [.paragraph paragraph]) ++
              tables.map .table) } })) ∧
      (∀ run ∈ text, run.format.italic = true) ∧
      ∀ ms, Opens none ns ms → ∀ r : Renderer,
        (visit s (.blockQuote ms m)).run.run r = (visit s (.blockQuote ns m)).run.run r := by
  intro text paragraph tables
  refine ⟨fun r => ?_, italic_of_mem_intercalate s.options ns, fun ms h r => ?_⟩
  · have hblocks : quote s.options ns =
        (if text = [] ∧ tables ≠ [] then [] else [.paragraph paragraph]) ++ tables.map .table := by
      have hempty : (text.isEmpty && !tables.isEmpty) = true ↔ text = [] ∧ tables ≠ [] := by simp
      rw [quote, Quotation.blocks, Quotation.runs, quotations_eq]
      exact congrArg (· ++ tables.map Block.table) (if_congr hempty rfl rfl)
    rw [run_visit_blockQuote, hblocks]
    rfl
  · rw [run_visit_blockQuote, run_visit_blockQuote, quote, quote, quotations_eq_of_opens h]

/-- A quote with a list in a quote of its own, a table in the list and code without a character. The
    item of the list may be opened. -/
theorem visit_blockQuote_flattens_nested :
    let table : Node := .table none [.tableRow [.tableCell [.text "c"]]]
    let code : List Node := [.fencedCode "" none, .indentedCode "d"]
    let ns (held : List Node) : List Node :=
      .paragraph [.text "a"] :: .blockQuote [.bulletList held] :: code
    let item : List Node := [.listItem [.paragraph [.text "b"], table]]
    let opened : List Node := [.paragraph [.text "b"], table]
    Opens none (ns item) (ns opened) ∧
      ((visit {} (.blockQuote (ns item))).run.run {}).2.documents.map
          (fun d => d.blocks.map fun b => b.runs.map (·.text)) =
        [[["a", "", "b", "", "d"], ["c"]]] ∧
      ∀ r : Renderer, (visit {} (.blockQuote (ns opened))).run.run r =
        (visit {} (.blockQuote (ns item))).run.run r := by
  intro table code ns item opened
  have hitem : Opens none item opened := .wrapper (n := .listItem opened) (by decide) []
  have hlist : Opens none [.bulletList item] [.bulletList opened] :=
    .beneath (n := .bulletList item) (by simp) hitem []
  have hopens : Opens none (ns item) (ns opened) :=
    .later _ (.beneath (n := .blockQuote [.bulletList item]) (by simp) hlist code)
  obtain ⟨hrun, -, hopen⟩ := visit_blockQuote_flattens {} (ns item) []
  refine ⟨hopens, ?_, hopen _ hopens⟩
  rw [hrun]
  decide

end Renderer

end Manuscript
