import Manuscript.Markdown.Inline
import Manuscript.Markdown.Outline
import Manuscript.Options.Markdown

/-!
# Markdown

A Markdown text is read in two steps: first its blocks, which also gives the definitions that links
refer to, then the text within each block. The result is a list of tokens, one for each block.
-/

namespace Manuscript.Markdown

mutual

/-- The definitions in a block, in order. -/
def definitionsIn : Block → List (List Char × Target)
  | .definition label target => [(Text.caseless label, target)]
  | .quote bs => definitionsInList bs
  | .bulletList items | .orderedList _ items => definitionsInItems items
  | .paragraph _ | .heading .. | .fenced .. | .indented _ | .html _ | .thematicBreak
  | .table _ => []

/-- The definitions in a list of blocks, in order. -/
def definitionsInList : List Block → List (List Char × Target)
  | [] => []
  | b :: bs => definitionsIn b ++ definitionsInList bs

/-- The definitions in the items of a list, in order. -/
def definitionsInItems : List (List Block) → List (List Char × Target)
  | [] => []
  | bs :: items => definitionsInList bs ++ definitionsInItems items

end

/-- The tokens of the text of a heading or cell. An empty one holds an empty text. -/
def Reading.tokensOrEmpty (r : Reading) (cs : List Char) : List Token :=
  if cs.isEmpty then [.leaf .text ""] else r.tokens cs

/-- The word for an alignment. -/
def Alignment.name : Alignment → String
  | .left => "left"
  | .right => "right"
  | .center => "center"

/-- The cells of a row. -/
def Reading.cells (r : Reading) (columns : List (Option Alignment)) (row : List (List Char)) :
    List Token :=
  (columns.zip row).map fun (alignment, text) =>
    .branch .tableCell (r.tokensOrEmpty text) { align := alignment.map Alignment.name }

/-- The token of a table. -/
def Reading.table (r : Reading) (g : Grid) : Token :=
  .branch .table [
    .branch .tableHead (r.cells g.columns g.header),
    .branch .tableBody (g.rows.map fun row => .branch .tableRow (r.cells g.columns row))]

mutual

/-- The token of a block; a definition has none. -/
def Reading.ofBlock? (r : Reading) : Block → Option Token
  | .paragraph text => some (.branch .paragraph (r.tokens text))
  | .heading level text =>
    some (.branch .heading (r.tokensOrEmpty text) { level := .int level })
  | .fenced info code =>
    some (.leaf .blockCode (String.ofList code)
      { info := if info.isEmpty then none else some (String.ofList info) })
  | .indented code => some (.leaf .blockCode (String.ofList code) { indented := true })
  | .html raw => some (.leaf .blockHtml (String.ofList raw))
  | .thematicBreak => some (.leaf .thematicBreak "")
  | .quote bs => some (.branch .blockQuote (r.ofBlocks bs))
  | .bulletList items => some (.branch .list (r.ofItems items))
  | .orderedList start items =>
    some (.branch .list (r.ofItems items) { ordered := true, start := start })
  | .table g => some (r.table g)
  | .definition .. => none

/-- The tokens of blocks. -/
def Reading.ofBlocks (r : Reading) : List Block → List Token
  | [] => []
  | b :: bs => (r.ofBlock? b).toList ++ r.ofBlocks bs

/-- The tokens of the items of a list. -/
def Reading.ofItems (r : Reading) : List (List Block) → List Token
  | [] => []
  | bs :: items => .branch .listItem (r.ofBlocks bs) :: r.ofItems items

end

/-- The tokens of a Markdown text. -/
def tokens (o : MarkdownOptions) (text : String) : List Token :=
  let bs := blocks o.parseTables text.toList
  let r : Reading := { definitions := definitionsInList bs, underline := o.parseUnderline }
  r.ofBlocks bs

end Manuscript.Markdown
