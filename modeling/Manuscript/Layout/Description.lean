import Manuscript.Layout.Document
import Manuscript.Layout.Style

/-!
# Descriptions of laid out documents

A laid out document as a plain value, every field under its name (`Document.describe`). Two
documents with the same description are the same.
-/

namespace Manuscript.Layout

/-- A mapping with text keys. -/
def fields (entries : List (String × Value)) : Value :=
  .map (entries.map fun (name, value) => (.text name, value))

/-- The value of a field that may be absent. -/
def optional (f : α → Value) : Option α → Value
  | none => .null
  | some a => f a

/-- A format as a value. -/
def Format.describe (f : Format) : Value :=
  fields [("bold", .bool f.bold), ("italic", .bool f.italic), ("underline", .bool f.underline),
    ("monospace", .bool f.monospace), ("color", optional .text f.color),
    ("font_size", optional .number f.fontSize)]

/-- A style as a value. -/
def Style.describe (s : Style) : Value :=
  fields (Field.all.map fun f => (f.name, s.value f))

/-- The word for what a run is. -/
def Run.Kind.name : Run.Kind → String
  | .text => "text"
  | .softBreak => "soft_break"
  | .hardBreak => "hard_break"

/-- A run as a value. -/
def Run.describe (r : Run) : Value :=
  fields [("text", .text r.text), ("style", r.format.describe), ("kind", .text r.kind.name),
    ("hyperlink", optional .text r.hyperlink), ("image_src", optional .text r.imageSource)]

/-- The word for a kind of list. -/
def ListKind.name : ListKind → String
  | .bullet => "bullet"
  | .ordered => "ordered"

/-- A paragraph as a value. -/
def Paragraph.describe (p : Paragraph) : Value :=
  fields [("type", .text "paragraph"), ("runs", .list (p.runs.map Run.describe)),
    ("style_name", optional .text p.styleName),
    ("spacing_after", optional Value.int p.spacingAfter),
    ("left_indent", optional Value.int p.leftIndent),
    ("right_indent", optional Value.int p.rightIndent),
    ("bottom_border", .bool p.bottomBorder), ("shading", optional .text p.shading),
    ("list_kind", optional (fun k => .text k.name) p.listKind),
    ("list_ordinal", optional Value.int p.listOrdinal), ("list_level", .int p.listLevel)]

/-- A table as a value. -/
def Table.describe (t : Table) : Value :=
  fields [("type", .text "table"), ("width", .number t.width), ("header_rows", .int t.headerRows),
    ("rows", .list (t.rows.map fun r => .list (r.cells.map Paragraph.describe)))]

/-- A block as a value. -/
def Block.describe : Block → Value
  | .paragraph p => p.describe
  | .table t => t.describe

/-- A document as a value. -/
def Document.describe (d : Document) : Value :=
  fields [("metadata", fields d.metadata), ("blocks", .list (d.blocks.map Block.describe))]

end Manuscript.Layout
