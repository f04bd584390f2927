import Manuscript.Markdown.Token
import Manuscript.Node
import Manuscript.Options.Markdown
import Manuscript.Text.Blank

/-!
# Trees of tokens

A list of tokens becomes a list of nodes, token by token. Tokens that are not known, and what is
beneath them, leave no node. Whatever the tokens are, blocks end up among blocks and inlines among
inlines.
-/

namespace Manuscript.Node

open Markdown

mutual

/-- The node of an inline token. -/
def ofInlineToken? : Token → Option Node
  | .mk kind raw attributes children =>
    match kind with
    | .text => some (.text raw)
    | .strong => some (.strong (ofInlineTokens children))
    | .emphasis => some (.emphasis (ofInlineTokens children))
    | .insert => some (.underline (ofInlineTokens children))
    | .codeSpan => some (.code raw)
    | .link => some (.link attributes.url (ofInlineTokens children) attributes.title)
    | .image =>
      let texts := children.filterMap fun c => if c.kind = .text then some c.raw else none
      some (.image attributes.url (String.join texts) attributes.title)
    | .softBreak => some .softBreak
    | .lineBreak => some .hardBreak
    | .inlineHtml => some (.htmlInline raw)
    | _ => none

/-- The nodes of inline tokens. -/
def ofInlineTokens : List Token → List Node
  | [] => []
  | t :: ts =>
    match ofInlineToken? t with
    | some n => n :: ofInlineTokens ts
    | none => ofInlineTokens ts

end

/-- The cells among the tokens of a row. -/
def ofCellTokens (ts : List Token) : List Node :=
  ts.filterMap fun t =>
    if t.kind = .tableCell then
      let metadata := match t.attributes.align with
        | some a => if a.isEmpty then [] else [("align", .text a)]
        | none => []
      some (.tableCell (ofInlineTokens t.children) metadata)
    else none

/-- The table of the tokens of its parts: the last head is its header, and all bodies give rows. -/
def ofTableTokens (parts : List Token) : Node :=
  let heads := parts.filter fun t => t.kind = .tableHead
  let bodies := parts.filter fun t => t.kind = .tableBody
  .table (heads.getLast?.map fun t => .tableRow (ofCellTokens t.children))
    (bodies.flatMap fun b => b.children.map fun r => .tableRow (ofCellTokens r.children))

/-- The node of a code block. -/
def ofCodeToken (o : MarkdownOptions) (raw : String) (a : Token.Attributes) : Node :=
  let cs := raw.toList
  let code :=
    if o.stripCodeTrailingNewline && cs.getLast? == some '\n' then String.ofList cs.dropLast
    else raw
  if a.indented then .indentedCode code
  else
    let info := Text.strip (a.info.getD "").toList
    .fencedCode code ((Text.words info).head?.map String.ofList)
      (if info.isEmpty then [] else [("info_string", .text (String.ofList info))])

mutual

/-- The node of a block token. -/
def ofToken? (o : MarkdownOptions) : Token → Option Node
  | .mk kind raw attributes children =>
    match kind with
    | .heading => some (.heading attributes.level (ofInlineTokens children))
    | .paragraph | .blockText => some (.paragraph (ofInlineTokens children))
    | .blockCode => some (ofCodeToken o raw attributes)
    | .blockQuote => some (.blockQuote (ofTokens o children))
    | .list =>
      if attributes.ordered then some (.orderedList attributes.start (ofItemTokens o children))
      else some (.bulletList (ofItemTokens o children))
    | .table => some (ofTableTokens children)
    | .thematicBreak => some .thematicBreak
    | .blockHtml => some (.htmlBlock raw)
    | _ => none

/-- The nodes of block tokens. -/
def ofTokens (o : MarkdownOptions) : List Token → List Node
  | [] => []
  | t :: ts =>
    match ofToken? o t with
    | some n => n :: ofTokens o ts
    | none => ofTokens o ts

/-- The items among the tokens of a list. -/
def ofItemTokens (o : MarkdownOptions) : List Token → List Node
  | [] => []
  | .mk kind _ _ children :: ts =>
    if kind = .listItem then .listItem (ofTokens o children) :: ofItemTokens o ts
    else ofItemTokens o ts

end

end Manuscript.Node
