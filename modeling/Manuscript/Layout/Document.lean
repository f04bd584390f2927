import Manuscript.Layout.Table

/-!
# Laid out documents

A laid out document is a sequence of paragraphs and tables with the properties of the document. It
is what rendering produces and what the word processor's format is written from.
-/

namespace Manuscript.Layout

/-- A paragraph or a table. -/
inductive Block
  | paragraph (p : Paragraph)
  | table (t : Table)
  deriving DecidableEq, Repr, Inhabited

/-- Paragraphs and tables in reading order, with the properties of the document. -/
structure Document where
  blocks : List Block := []
  metadata : Metadata := []
  deriving Repr, Inhabited

namespace Block

/-- The paragraph that a block is. -/
def paragraph? : Block → Option Paragraph
  | paragraph p => some p
  | table _ => none

/-- The table that a block is. -/
def table? : Block → Option Table
  | paragraph _ => none
  | table t => some t

/-- The runs of a block, of a table row by row. -/
def runs : Block → List Run
  | paragraph p => p.runs
  | table t => t.rows.flatMap fun r => r.cells.flatMap (·.runs)

end Block

namespace Document

/-- The runs of a document in reading order. -/
def runs (d : Document) : List Run :=
  d.blocks.flatMap Block.runs

/-- The document with a block added at its end. -/
def append (d : Document) (b : Block) : Document :=
  { d with blocks := d.blocks ++ [b] }

/-- One document after another: the properties of the second override those of the first. -/
def concat (d e : Document) : Document :=
  ⟨d.blocks ++ e.blocks, d.metadata.update e.metadata⟩

instance : Append Document := ⟨concat⟩

/-- The document of one paragraph. -/
def ofParagraph (p : Paragraph) : Document :=
  { blocks := [.paragraph p] }

@[simp] theorem blocks_append (d e : Document) : (d ++ e).blocks = d.blocks ++ e.blocks := rfl

@[simp] theorem runs_append (d e : Document) : (d ++ e).runs = d.runs ++ e.runs :=
  List.flatMap_append

@[simp] theorem runs_ofParagraph (p : Paragraph) : (ofParagraph p).runs = p.runs :=
  List.append_nil _

/-- The paragraphs that stand in no table. -/
def paragraphs (d : Document) : List Paragraph :=
  d.blocks.filterMap Block.paragraph?

/-- The tables. -/
def tables (d : Document) : List Table :=
  d.blocks.filterMap Block.table?

/-- Changes the blocks at which `select` is defined, the one at place `i` among them. -/
def updateAt (select : Block → Option α) (make : α → Block) (f : α → α × Bool) :
    List Block → Nat → List Block × Bool
  | [], _ => ([], false)
  | b :: bs, i =>
    match select b, i with
    | some a, 0 => (make (f a).1 :: bs, (f a).2)
    | some _, i + 1 => let (cs, ok) := updateAt select make f bs i; (b :: cs, ok)
    | none, i => let (cs, ok) := updateAt select make f bs i; (b :: cs, ok)

/-- The place `i` among `n`, counted from the end when it is negative. -/
def position? (n : Nat) (i : Int) : Option Nat :=
  if 0 ≤ i then if i.toNat < n then some i.toNat else none
  else if i.natAbs ≤ n then some (n - i.natAbs) else none

/-- Changes the paragraph at a place among the paragraphs, if it is there. -/
def updateParagraph (d : Document) (i : Int) (f : Paragraph → Paragraph) : Document × Bool :=
  match position? d.paragraphs.length i with
  | some k =>
    let (blocks, ok) := updateAt Block.paragraph? .paragraph (fun p => (f p, true)) d.blocks k
    ({ d with blocks }, ok)
  | none => (d, false)

/-- Changes the table at a place among the tables, if it is there. -/
def updateTable (d : Document) (i : Int) (f : Table → Table × Bool) : Document × Bool :=
  match position? d.tables.length i with
  | some k =>
    let (blocks, ok) := updateAt Block.table? .table f d.blocks k
    ({ d with blocks }, ok)
  | none => (d, false)

/-- The table at a place among the tables. -/
def table? (d : Document) (i : Int) : Option Table :=
  (position? d.tables.length i).bind fun k => d.tables[k]?

end Document

end Manuscript.Layout
