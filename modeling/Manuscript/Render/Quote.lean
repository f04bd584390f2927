import Manuscript.Layout.Document
import Manuscript.Render.Table

/-!
# Laying out block quotes

A block quote becomes one indented paragraph in italics. The paragraphs, headings and code blocks in
it give a group of runs each, through nested quotes and lists, and the groups are joined by breaks.
A table cannot stand in a paragraph, so the tables of a quote follow it.
-/

namespace Manuscript.Render

open Layout

/-- The format of quoted text. -/
def quoteFormat : Format :=
  Format.plain.apply (.italic true)

/-- What is collected from a quote: the groups of runs and the tables. -/
structure Quotation where
  groups : List (List Run) := []
  tables : List Table := []
  deriving DecidableEq, Repr, Inhabited

/-- One quotation after another. -/
def Quotation.append (p q : Quotation) : Quotation :=
  ⟨p.groups ++ q.groups, p.tables ++ q.tables⟩

instance : Append Quotation := ⟨Quotation.append⟩

/-- A group, if it holds any run. -/
def Quotation.ofRuns (rs : List Run) : Quotation :=
  if rs.isEmpty then {} else { groups := [rs] }

mutual

/-- What a quoted node gives. -/
def quotation (o : DocxOptions) : Node → Quotation
  | .paragraph ns _ | .heading _ ns _ => .ofRuns (runs o quoteFormat ns)
  | .fencedCode code _ _ | .indentedCode code _ =>
    .ofRuns (textRuns code (quoteFormat.apply (.monospace true)) none)
  | .blockQuote ns _ | .bulletList ns _ | .orderedList _ ns _ | .listItem ns _ => quotations o ns
  | .table header rows _ => { tables := [table o header rows] }
  | .document .. | .tableRow .. | .tableCell .. | .thematicBreak .. | .htmlBlock .. | .text ..
  | .emphasis .. | .strong .. | .underline .. | .code .. | .link .. | .image .. | .softBreak ..
  | .hardBreak .. | .htmlInline .. => {}

/-- What a list of quoted nodes gives, in order. -/
def quotations (o : DocxOptions) : List Node → Quotation
  | [] => {}
  | n :: ns => quotation o n ++ quotations o ns

end

/-- The break between two groups of a quote. -/
def quoteBreak : Run :=
  { text := "", format := quoteFormat, kind := .hardBreak }

/-- The runs of a quote: its groups, with a break between each two. -/
def Quotation.runs (q : Quotation) : List Run :=
  [quoteBreak].intercalate q.groups

/-- The blocks of a quote: its paragraph, which is left out when it would be empty and there is a
    table, and its tables. -/
def Quotation.blocks (q : Quotation) : List Block :=
  let paragraph : Paragraph :=
    { runs := q.runs, spacingAfter := some 150, leftIndent := some 720, rightIndent := some 360 }
  let text := if q.runs.isEmpty && !q.tables.isEmpty then [] else [.paragraph paragraph]
  text ++ q.tables.map .table

/-- The blocks of a block quote. -/
def quote (o : DocxOptions) (ns : List Node) : List Block :=
  (quotations o ns).blocks

end Manuscript.Render
