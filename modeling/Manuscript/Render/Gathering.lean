import Manuscript.Render.Quote

/-!
# Gathering block quotes

A quote is gathered in one pass: the runs of its paragraph grow group by group, with a break before
each group but the first, and the tables are set aside until the paragraph is written.
-/

namespace Manuscript.Render

open Layout

/-- What has been gathered from a quote so far: the runs of its paragraph, and its tables, each by
    its header and its rows. -/
structure Gathering where
  runs : List Run := []
  tables : List (Option Node × List Node) := []
  deriving Inhabited

namespace Gathering

/-- Adds a group of runs, if it holds any, behind a break unless it is the first. -/
def join (g : Gathering) (rs : List Run) : Gathering :=
  if rs.isEmpty then g
  else if g.runs.isEmpty then { g with runs := rs }
  else { g with runs := g.runs ++ quoteBreak :: rs }

/-- Sets a table aside. -/
def setAside (g : Gathering) (header : Option Node) (rows : List Node) : Gathering :=
  { g with tables := g.tables ++ [(header, rows)] }

/-- The paragraph of a quote. -/
def paragraph (g : Gathering) : Paragraph :=
  { runs := g.runs, spacingAfter := some 150, leftIndent := some 720, rightIndent := some 360 }

end Gathering

mutual

/-- Gathers from a quoted node, after what has been gathered before it. -/
def gather (o : DocxOptions) (g : Gathering) : Node → Gathering
  | .paragraph ns _ | .heading _ ns _ => g.join (runs o quoteFormat ns)
  | .fencedCode code _ _ | .indentedCode code _ =>
    g.join (textRuns code (quoteFormat.apply (.monospace true)) none)
  | .blockQuote ns _ | .bulletList ns _ | .orderedList _ ns _ | .listItem ns _ => gatherAll o g ns
  | .table header rows _ => g.setAside header rows
  | .document .. | .tableRow .. | .tableCell .. | .thematicBreak .. | .htmlBlock .. | .text ..
  | .emphasis .. | .strong .. | .underline .. | .code .. | .link .. | .image .. | .softBreak ..
  | .hardBreak .. | .htmlInline .. => g

/-- Gathers from a list of quoted nodes, one after another. -/
def gatherAll (o : DocxOptions) (g : Gathering) : List Node → Gathering
  | [] => g
  | n :: ns => gatherAll o (gather o g n) ns

end

end Manuscript.Render
