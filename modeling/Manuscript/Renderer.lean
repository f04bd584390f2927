import Manuscript.Error.Fault
import Manuscript.Render
import Manuscript.Render.Gathering

/-!
# Renderers

A renderer lays out one tree after another. For each it begins a new document, and it writes into
that one as it walks over the tree, counting the list items that it is in. The documents that it has
begun stay where they are, and what a caller is given is the place of one (`Renderer.render`).

A list should hold nothing but items. What cannot hold other nodes in the way of an item ends the
walk with a fault.
-/

namespace Manuscript

open Layout Render

/-- What lays out documents, one after another. -/
structure Renderer where
  setup : Setup := {}
  /-- The documents that have been begun, in order. -/
  documents : List Document := [{}]
  /-- The place of the document that is written into. -/
  current : Nat := 0
  /-- The number of list items around the node that is visited. -/
  depth : Nat := 0
  deriving Inhabited

namespace Renderer

/-- A part of a walk. What it has written stays when it ends with a fault. -/
abbrev Writing := ExceptT Fault (StateM Renderer)

/-- Changes the document that is written into. -/
def edit (f : Document → Document) : Writing Unit :=
  modify fun r => { r with documents := r.documents.modify r.current f }

/-- Writes a block behind the others. -/
def write (b : Block) : Writing Unit :=
  edit fun d => d.append b

/-- Adds properties to those of the document. -/
def setProperties (m : Metadata) : Writing Unit :=
  edit fun d => { d with metadata := d.metadata.update m }

/-- Writes the paragraph that an item opens with. -/
def writeOpening (s : Setup) (m : Marking) (text : List Run) : Writing Unit := do
  write (.paragraph (m.paragraph s.options (← get).depth text))

/-- Writes what was gathered from a quote: its paragraph, unless that would be empty and there is a
    table, and then its tables. -/
def writeQuote (s : Setup) (g : Gathering) : Writing Unit := do
  if !g.runs.isEmpty || g.tables.isEmpty then write (.paragraph g.paragraph)
  g.tables.forM fun (header, rows) => write (.table (table s.options header rows))

/-- A part of a walk within a list item. The count goes back however the part ends. -/
def deeper (x : Writing Unit) : Writing Unit := do
  modify fun r => { r with depth := r.depth + 1 }
  try x finally modify fun r => { r with depth := r.depth - 1 }

mutual

/-- Visits a node. -/
def visit (s : Setup) : Node → Writing Unit
  | .document ns m => do
    setProperties m
    visitAll s ns
  | .heading level ns _ => write (.paragraph (heading s level ns))
  | .paragraph ns _ => do
    write (.paragraph { runs := runs s.options .plain ns, spacingAfter := some 150,
                        listLevel := (← get).depth })
  | .bulletList ns _ => visitItems s .bullet ns
  | .orderedList start ns _ => visitItems s (.ordinal start) ns
  | .listItem ns _ => visitHeld s .unmarked ns
  | .table header rows _ => write (.table (table s.options header rows))
  | .fencedCode code _ _ | .indentedCode code _ => do
    write (.paragraph (codeBlock s (← get).depth code))
  | .blockQuote ns _ => writeQuote s (gatherAll s.options {} ns)
  | .thematicBreak _ => write (.paragraph thematicBreak)
  | .tableRow .. | .tableCell .. | .htmlBlock .. | .text .. | .emphasis .. | .strong ..
  | .underline .. | .code .. | .link .. | .image .. | .softBreak .. | .hardBreak ..
  | .htmlInline .. => return

/-- Visits the nodes of a list, one after another. -/
def visitAll (s : Setup) : List Node → Writing Unit
  | [] => return
  | n :: ns => do
    visit s n
    visitAll s ns

/-- Visits the items of a list. -/
def visitItems (s : Setup) (m : Marking) : List Node → Writing Unit
  | [] => return
  | n :: ns => do
    visitItem s m n
    visitItems s m.next ns

/-- Visits an item of a list. -/
def visitItem (s : Setup) (m : Marking) : Node → Writing Unit
  | .listItem ns _ | .document ns _ | .blockQuote ns _ => visitHeld s m ns
  | _ => throw .noSuchAttribute

/-- Visits what an item holds. The text of its first node stands in the paragraph of the item, if
    that node is a paragraph, and the others lie within the item. -/
def visitHeld (s : Setup) (m : Marking) : List Node → Writing Unit
  | [] => writeOpening s m []
  | .paragraph text _ :: ns => do
    writeOpening s m (runs s.options .plain text)
    deeper (visitAll s ns)
  | n :: ns => do
    writeOpening s m []
    deeper do
      visit s n
      visitAll s ns

end

/-- Begins a new document. -/
def begin : Writing Unit :=
  modify fun r => { r with documents := r.documents ++ [{}], current := r.documents.length,
                           depth := 0 }

/-- Lays out a list of nodes into a new document. The answer is the place of that document, or the
    fault that ended the walk. -/
def render (r : Renderer) (ns : List Node) : Except Fault Nat × Renderer :=
  let walk : Writing Nat := do
    begin
    visitAll r.setup ns
    return (← get).current
  walk.run.run r

/-- Lays out lists of nodes one after another. The answers are in the same order. -/
def renderAll (r : Renderer) : List (List Node) → List (Except Fault Nat) × Renderer
  | [] => ([], r)
  | ns :: rest =>
    let (answer, r) := r.render ns
    let (answers, r) := r.renderAll rest
    (answer :: answers, r)

end Renderer

end Manuscript
