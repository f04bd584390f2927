import Manuscript.Value

/-!
# Markdown tokens

What a Markdown text consists of: a tree of tokens, blocks above and inlines below. Tokens also come
from elsewhere, so a token may be of any kind, and what it lacks has a default.
-/

namespace Manuscript.Markdown

/-- The kinds of tokens. -/
inductive Token.Kind
  | heading | paragraph
  /-- The text of an item of a list without blank lines. -/
  | blockText
  | blockCode | blockQuote | list | listItem | table | tableHead | tableBody | tableRow | tableCell
  | thematicBreak | blockHtml | blankLine | text | strong | emphasis
  /-- Underlined text. -/
  | insert
  | codeSpan | link | image | softBreak | lineBreak | inlineHtml
  | other (name : String)
  deriving DecidableEq, Repr, Inhabited

/-- The names of the kinds of tokens. -/
def Token.kindNames : List (String × Token.Kind) := [
  ("heading", .heading), ("paragraph", .paragraph), ("block_text", .blockText),
  ("block_code", .blockCode), ("block_quote", .blockQuote), ("list", .list),
  ("list_item", .listItem), ("table", .table), ("table_head", .tableHead),
  ("table_body", .tableBody), ("table_row", .tableRow), ("table_cell", .tableCell),
  ("thematic_break", .thematicBreak), ("block_html", .blockHtml), ("blank_line", .blankLine),
  ("text", .text), ("strong", .strong), ("emphasis", .emphasis), ("insert", .insert),
  ("codespan", .codeSpan), ("link", .link), ("image", .image), ("softbreak", .softBreak),
  ("linebreak", .lineBreak), ("inline_html", .inlineHtml)]

/-- The kind of a name. -/
def Token.Kind.ofName (name : String) : Token.Kind :=
  (Token.kindNames.lookup name).getD (.other name)

/-- What is said about a token beside its text. -/
structure Token.Attributes where
  /-- The level of a heading. -/
  level : Value := .int 1
  /-- Whether the items of a list are numbered. -/
  ordered : Bool := false
  /-- The number of the first item. -/
  start : Int := 1
  /-- What follows the opening fence of a code block. -/
  info : Option String := none
  /-- Whether a code block is indented rather than fenced. -/
  indented : Bool := false
  /-- How the text of a cell is aligned. -/
  align : Option String := none
  url : String := ""
  title : Option String := none
  deriving Repr, Inhabited

/-- A token: its kind, its text if it is a leaf, what is said about it, and the tokens beneath
    it. -/
inductive Token
  | mk (kind : Token.Kind) (raw : String) (attributes : Token.Attributes) (children : List Token)
  deriving Repr, Inhabited

namespace Token

/-- A token that has text. -/
def leaf (kind : Kind) (raw : String) (attributes : Attributes := {}) : Token :=
  .mk kind raw attributes []

/-- A token that has other tokens beneath it. -/
def branch (kind : Kind) (children : List Token) (attributes : Attributes := {}) : Token :=
  .mk kind "" attributes children

/-- The kind of a token. -/
def kind : Token → Kind
  | .mk k _ _ _ => k

/-- The text of a token. -/
def raw : Token → String
  | .mk _ s _ _ => s

/-- What is said about a token. -/
def attributes : Token → Attributes
  | .mk _ _ a _ => a

/-- The tokens beneath a token. -/
def children : Token → List Token
  | .mk _ _ _ ts => ts

end Token

end Manuscript.Markdown
