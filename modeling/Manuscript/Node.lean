import Manuscript.Value

/-!
# Document trees

A document is a tree of nodes: blocks such as headings, lists and tables, and inlines such as text,
emphasis and links. Any node may stand anywhere in a tree that was built by hand, so there is one
type of nodes; which trees a Markdown text gives rise to is said separately
(`Manuscript.Node.WellSorted`).

Every node carries properties (`Node.metadata`), mostly none.
-/

namespace Manuscript

/-- A node of a document tree with the nodes beneath it. -/
inductive Node
  /-- The root of a document. -/
  | document (children : List Node) (metadata : Metadata := [])
  /-- A heading. The level is what the tree says, be it a level or not. -/
  | heading (level : Value) (content : List Node) (metadata : Metadata := [])
  | paragraph (content : List Node) (metadata : Metadata := [])
  | bulletList (items : List Node) (metadata : Metadata := [])
  /-- A numbered list, with the number of its first item. -/
  | orderedList (start : Int) (items : List Node) (metadata : Metadata := [])
  | listItem (children : List Node) (metadata : Metadata := [])
  | table (header : Option Node) (rows : List Node) (metadata : Metadata := [])
  | tableRow (cells : List Node) (metadata : Metadata := [])
  | tableCell (content : List Node) (metadata : Metadata := [])
  /-- A code block between fences, with the first word after the opening one. -/
  | fencedCode (code : String) (language : Option String) (metadata : Metadata := [])
  | indentedCode (code : String) (metadata : Metadata := [])
  | blockQuote (children : List Node) (metadata : Metadata := [])
  | thematicBreak (metadata : Metadata := [])
  | htmlBlock (html : String) (metadata : Metadata := [])
  | text (text : String) (metadata : Metadata := [])
  | emphasis (content : List Node) (metadata : Metadata := [])
  | strong (content : List Node) (metadata : Metadata := [])
  | underline (content : List Node) (metadata : Metadata := [])
  /-- A code span. -/
  | code (code : String) (metadata : Metadata := [])
  | link (url : String) (content : List Node) (title : Option String) (metadata : Metadata := [])
  | image (url : String) (alt : String) (title : Option String) (metadata : Metadata := [])
  /-- A line break of the source that is none of the text. -/
  | softBreak (metadata : Metadata := [])
  | hardBreak (metadata : Metadata := [])
  | htmlInline (html : String) (metadata : Metadata := [])
  deriving Repr, Inhabited

namespace Node

/-- The kinds of nodes. -/
inductive Kind
  | document | heading | paragraph | bulletList | orderedList | listItem | table | tableRow
  | tableCell | fencedCode | indentedCode | blockQuote | thematicBreak | htmlBlock | text | emphasis
  | strong | underline | code | link | image | softBreak | hardBreak | htmlInline
  deriving DecidableEq, Repr, Inhabited

/-- The kind of a node. -/
def kind : Node → Kind
  | .document .. => .document
  | .heading .. => .heading
  | .paragraph .. => .paragraph
  | .bulletList .. => .bulletList
  | .orderedList .. => .orderedList
  | .listItem .. => .listItem
  | .table .. => .table
  | .tableRow .. => .tableRow
  | .tableCell .. => .tableCell
  | .fencedCode .. => .fencedCode
  | .indentedCode .. => .indentedCode
  | .blockQuote .. => .blockQuote
  | .thematicBreak .. => .thematicBreak
  | .htmlBlock .. => .htmlBlock
  | .text .. => .text
  | .emphasis .. => .emphasis
  | .strong .. => .strong
  | .underline .. => .underline
  | .code .. => .code
  | .link .. => .link
  | .image .. => .image
  | .softBreak .. => .softBreak
  | .hardBreak .. => .hardBreak
  | .htmlInline .. => .htmlInline

/-- Where a kind of node belongs. -/
inductive Role
  | root | block | inline
  deriving DecidableEq, Repr

/-- Whether a kind of node is the root, a block or an inline. -/
def Kind.role : Kind → Role
  | .document => .root
  | .heading | .paragraph | .bulletList | .orderedList | .listItem | .table | .tableRow | .tableCell
  | .fencedCode | .indentedCode | .blockQuote | .thematicBreak | .htmlBlock => .block
  | .text | .emphasis | .strong | .underline | .code | .link | .image | .softBreak | .hardBreak
  | .htmlInline => .inline

/-- The properties of a node. -/
def metadata : Node → Metadata
  | .document _ m | .heading _ _ m | .paragraph _ m | .bulletList _ m | .orderedList _ _ m
  | .listItem _ m | .table _ _ m | .tableRow _ m | .tableCell _ m | .fencedCode _ _ m
  | .indentedCode _ m | .blockQuote _ m | .thematicBreak m | .htmlBlock _ m | .text _ m
  | .emphasis _ m | .strong _ m | .underline _ m | .code _ m | .link _ _ _ m | .image _ _ _ m
  | .softBreak m | .hardBreak m | .htmlInline _ m => m

/-- The nodes directly beneath a node, in document order: those of a table are its header, if it has
    one, and its rows. -/
def children : Node → List Node
  | .document ns _ | .heading _ ns _ | .paragraph ns _ | .bulletList ns _ | .orderedList _ ns _
  | .listItem ns _ | .tableRow ns _ | .tableCell ns _ | .blockQuote ns _ | .emphasis ns _
  | .strong ns _ | .underline ns _ | .link _ ns _ _ => ns
  | .table header rows _ => header.toList ++ rows
  | .fencedCode .. | .indentedCode .. | .thematicBreak .. | .htmlBlock .. | .text .. | .code ..
  | .image .. | .softBreak .. | .hardBreak .. | .htmlInline .. => []

mutual

/-- Whether two nodes are of one kind and equal in every field. -/
def same : Node → Node → Bool
  | .document a m, .document b n => sameList a b && m.same n
  | .heading l a m, .heading k b n => l.same k && sameList a b && m.same n
  | .paragraph a m, .paragraph b n => sameList a b && m.same n
  | .bulletList a m, .bulletList b n => sameList a b && m.same n
  | .orderedList s a m, .orderedList t b n => s == t && sameList a b && m.same n
  | .listItem a m, .listItem b n => sameList a b && m.same n
  | .table (some h) a m, .table (some k) b n => same h k && sameList a b && m.same n
  | .table none a m, .table none b n => sameList a b && m.same n
  | .tableRow a m, .tableRow b n => sameList a b && m.same n
  | .tableCell a m, .tableCell b n => sameList a b && m.same n
  | .fencedCode a l m, .fencedCode b k n => a == b && l == k && m.same n
  | .indentedCode a m, .indentedCode b n => a == b && m.same n
  | .blockQuote a m, .blockQuote b n => sameList a b && m.same n
  | .thematicBreak m, .thematicBreak n => m.same n
  | .htmlBlock a m, .htmlBlock b n => a == b && m.same n
  | .text a m, .text b n => a == b && m.same n
  | .emphasis a m, .emphasis b n => sameList a b && m.same n
  | .strong a m, .strong b n => sameList a b && m.same n
  | .underline a m, .underline b n => sameList a b && m.same n
  | .code a m, .code b n => a == b && m.same n
  | .link u a t m, .link v b s n => u == v && sameList a b && t == s && m.same n
  | .image u a t m, .image v b s n => u == v && a == b && t == s && m.same n
  | .softBreak m, .softBreak n => m.same n
  | .hardBreak m, .hardBreak n => m.same n
  | .htmlInline a m, .htmlInline b n => a == b && m.same n
  | _, _ => false

/-- Whether two lists of nodes are equal place by place. -/
def sameList : List Node → List Node → Bool
  | [], [] => true
  | x :: xs, y :: ys => same x y && sameList xs ys
  | _, _ => false

end

end Node

end Manuscript
