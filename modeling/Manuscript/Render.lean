import Manuscript.Render.Quote

/-!
# Laying out documents

A tree becomes a sequence of paragraphs and tables in one pass from top to bottom. Lists are
flattened: each item opens a paragraph that says which kind of list it belongs to, its number and
how deep it lies, and the other blocks of the item follow at one level more. A node that has no
place among blocks is skipped.

Laying out one list of nodes after another gives the blocks of the first and then those of the
second (`blocks_append`).
-/

namespace Manuscript.Render

open Layout

/-- What a document is laid out with: the options, and the names of the paragraph styles that there
    are; all styles are taken to exist if nothing is known of them. -/
structure Setup where
  options : DocxOptions := {}
  styles : Option (List String) := none
  deriving DecidableEq, Repr, Inhabited

/-- Whether a paragraph style is there. -/
def Setup.hasStyle (s : Setup) (name : String) : Bool :=
  s.styles.all fun names => names.contains name

/-- The level that a heading is laid out at: its own if it is a whole number from one to six, and
    otherwise one. -/
def headingLevel : Value → Int
  | .number (.whole n) => if 1 ≤ n ∧ n ≤ 6 then n else 1
  | _ => 1

/-- The name of the style of a heading. The truth value true is taken for the number one, but it is
    spelled out in the name. -/
def headingStyle : Value → String
  | .bool true => "HeadingTrue"
  | level => "Heading" ++ toString (headingLevel level)

/-- A heading, with the style of its level or, where that is missing, in bold and with a size. -/
def heading (s : Setup) (level : Value) (ns : List Node) : Paragraph :=
  if s.hasStyle (headingStyle level) then
    { runs := runs s.options .plain ns, styleName := some (headingStyle level),
      spacingAfter := some 200 }
  else
    let size := s.options.headingSize (headingLevel level)
    let f := Format.plain.merge [.bold true, .fontSize (some size)]
    { runs := runs s.options f ns, spacingAfter := some 200 }

/-- A code block. -/
def codeBlock (s : Setup) (depth : Nat) (code : String) : Paragraph :=
  let f := Format.plain.merge [.monospace true, .fontSize (some s.options.codeFontSize)]
  { runs := textRuns code f none, spacingAfter := some 150, shading := s.options.codeBackground,
    listLevel := depth }

/-- The empty paragraph of a thematic break. -/
def thematicBreak : Paragraph :=
  { spacingAfter := some 200, bottomBorder := true }

/-- How the next item of a list is marked. -/
inductive Marking
  /-- An item that is in no list. -/
  | unmarked
  | bullet
  | ordinal (n : Int)
  deriving DecidableEq, Repr, Inhabited

namespace Marking

/-- The marking of the item after. -/
def next : Marking → Marking
  | ordinal n => ordinal (n + 1)
  | m => m

/-- What is written before the text of an item. -/
def label (o : DocxOptions) : Marking → String
  | unmarked => ""
  | bullet => o.bulletGlyph
  | ordinal n => if o.numberOrderedLists then toString n ++ ". " else ""

/-- The paragraph that an item opens with. -/
def paragraph (o : DocxOptions) (m : Marking) (depth : Nat) (text : List Run) : Paragraph where
  runs := textRuns (m.label o) .plain none ++ text
  listKind := some (match m with | ordinal _ => .ordered | _ => .bullet)
  listOrdinal := match m with | ordinal n => some n | _ => none
  listLevel := depth

end Marking

mutual

/-- The blocks of a node that lies in `depth` list items. -/
def block (s : Setup) (depth : Nat) : Node → Document
  | .document ns m => ({ metadata := m } : Document) ++ blocks s depth ns
  | .heading level ns _ => .ofParagraph (heading s level ns)
  | .paragraph ns _ =>
    .ofParagraph
      { runs := runs s.options .plain ns, spacingAfter := some 150, listLevel := depth }
  | .bulletList ns _ => items s depth .bullet ns
  | .orderedList start ns _ => items s depth (.ordinal start) ns
  | .listItem ns _ => itemBlocks s depth .unmarked ns
  | .table header rows _ => { blocks := [.table (table s.options header rows)] }
  | .fencedCode code _ _ | .indentedCode code _ => .ofParagraph (codeBlock s depth code)
  | .blockQuote ns _ => { blocks := quote s.options ns }
  | .thematicBreak _ => .ofParagraph thematicBreak
  | .tableRow .. | .tableCell .. | .htmlBlock .. | .text .. | .emphasis .. | .strong ..
  | .underline .. | .code .. | .link .. | .image .. | .softBreak .. | .hardBreak ..
  | .htmlInline .. => {}

/-- The blocks of a list of nodes, in order. -/
def blocks (s : Setup) (depth : Nat) : List Node → Document
  | [] => {}
  | n :: ns => block s depth n ++ blocks s depth ns

/-- The blocks of the items of a list. -/
def items (s : Setup) (depth : Nat) (m : Marking) : List Node → Document
  | [] => {}
  | n :: ns => item s depth m n ++ items s depth m.next ns

/-- The blocks of an item of a list. -/
def item (s : Setup) (depth : Nat) (m : Marking) : Node → Document
  | .listItem ns _ | .document ns _ | .blockQuote ns _ => itemBlocks s depth m ns
  | _ => .ofParagraph (m.paragraph s.options depth [])

/-- The blocks of an item that holds the given nodes: its own paragraph, with the text of the first
    node if that is a paragraph, and the blocks of the other nodes at one level more. -/
def itemBlocks (s : Setup) (depth : Nat) (m : Marking) : List Node → Document
  | [] => .ofParagraph (m.paragraph s.options depth [])
  | .paragraph text _ :: ns =>
    .ofParagraph (m.paragraph s.options depth (runs s.options .plain text)) ++
      blocks s (depth + 1) ns
  | n :: ns =>
    .ofParagraph (m.paragraph s.options depth []) ++
      (block s (depth + 1) n ++ blocks s (depth + 1) ns)

end

/-- The blocks of an item that does not begin with a paragraph. -/
theorem itemBlocks_cons_of_ne {n : Node} (h : n.kind ≠ .paragraph) (s : Setup) (depth : Nat)
    (m : Marking) (ns : List Node) :
    itemBlocks s depth m (n :: ns) =
      .ofParagraph (m.paragraph s.options depth []) ++ blocks s (depth + 1) (n :: ns) := by
  cases n with
  | paragraph => exact absurd rfl h
  | _ => simp only [itemBlocks, blocks]

/-- Lays out a list of nodes; the tree of a whole document is the list of its root alone. -/
def render (s : Setup) (ns : List Node) : Document :=
  blocks s 0 ns

end Manuscript.Render
