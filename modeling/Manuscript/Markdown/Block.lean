/-!
# Blocks of Markdown

The blocks of a Markdown text, with the text of paragraphs, headings and cells not yet read. A
reference definition is a block too, so that where it stands is known.
-/

namespace Manuscript.Markdown

/-- How the text of a column is aligned. -/
inductive Alignment
  | left
  | right
  | center
  deriving DecidableEq, Repr, Inhabited

/-- The columns of a table and its rows of cells. -/
structure Grid where
  columns : List (Option Alignment)
  header : List (List Char)
  rows : List (List (List Char))
  deriving DecidableEq, Repr, Inhabited

/-- What a link leads to: an address, and a title if it has one. -/
structure Target where
  url : List Char
  title : Option (List Char) := none
  deriving DecidableEq, Repr, Inhabited

/-- A block. -/
inductive Block
  | paragraph (text : List Char)
  | heading (level : Nat) (text : List Char)
  | fenced (info : List Char) (code : List Char)
  | indented (code : List Char)
  | html (raw : List Char)
  | thematicBreak
  | quote (blocks : List Block)
  | bulletList (items : List (List Block))
  | orderedList (start : Nat) (items : List (List Block))
  | table (grid : Grid)
  /-- The definition of what a label leads to. -/
  | definition (label : List Char) (target : Target)
  deriving Repr, Inhabited

end Manuscript.Markdown
