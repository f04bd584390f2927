import Manuscript.Docx.Section
import Manuscript.Docx.Text

/-!
# Writing of paragraphs and tables

A paragraph is written as its properties and its runs. A table has as many columns as its widest
row, and each of its rows has a cell for each of them; the columns share the width of the text. A
table without cells is not written.
-/

namespace Manuscript.Docx

/-- How far a level of a list is indented, in twentieths of a point. -/
def listIndent : Int := 360

namespace Paragraph

/-- The line below a paragraph. -/
def border : Xml.Node :=
  element "pBdr" []
    [element "bottom" [("val", "single"), ("sz", "6"), ("space", "1"), ("color", "auto")]]

/-- The background of a paragraph. -/
def shading (color : String) : Xml.Node :=
  element "shd" [("val", "clear"), ("color", "auto"), ("fill", color)]

/-- How far a paragraph is indented on the left: as far as it says, or by its level in a list. -/
def leftIndent? (p : Layout.Paragraph) : Option Int :=
  p.leftIndent.orElse fun _ => if 0 < p.listLevel then some (listIndent * p.listLevel) else none

/-- The element for the properties of a paragraph, by what is written for each of them; for the
    style it is what `Styles.reference?` gives. Without any there is none. -/
def holder (style : Option (Option String)) (bordered : Bool)
    (shade spacing left right : Option String) : List Xml.Node :=
  let field (word : String) (value : Option String) := (value.map fun v => (word, v)).toList
  let named (word : String) (attributes : List (String × String)) :=
    if attributes.isEmpty then [] else [element word attributes]
  let all := named "pStyle" (field "val" style.join) ++ (if bordered then [border] else []) ++
    (shade.map shading).toList ++ named "spacing" (field "after" spacing) ++
    named "ind" (field "left" left ++ field "right" right)
  if all.isEmpty ∧ style.isNone then [] else [element "pPr" [] all]

/-- The properties of a paragraph. A style that the document lacks is left out. -/
def properties (styles : Styles) (p : Layout.Paragraph) : Except Fault (List Xml.Node) := do
  let style ← match p.styleName.filter (!·.isEmpty) with
    | none => pure none
    | some name => styles.reference? .paragraph name
  let spacing ← p.spacingAfter.mapM fun n => Length.distanceText (Length.ofTwentieths n)
  let left ← (leftIndent? p).mapM fun n => Length.indentText (Length.ofTwentieths n)
  let right ← p.rightIndent.mapM fun n => Length.indentText (Length.ofTwentieths n)
  let shade ← (p.shading.filter (!·.isEmpty)).mapM Xml.checked
  return holder style p.bottomBorder shade spacing left right

end Paragraph

namespace Setting

/-- A paragraph. -/
def paragraph (s : Setting) (p : Layout.Paragraph) : Drafting Xml.Node := do
  let properties ← (Job.ofFault (Paragraph.properties (← get).styles p) : Job _)
  return element "p" [] (properties ++ (← s.text p.runs))

/-! ## Tables -/

/-- The properties of a table. A style that the document lacks is left out. -/
def tableProperties (s : Setting) (styles : Styles) (width : Number) : Except Fault Xml.Node := do
  let style ← match s.options.tableStyle.filter (!·.isEmpty) with
    | none => pure none
    | some name => styles.reference? .table name
  let named := (style.join.map fun id => element "tblStyle" [("val", id)]).toList
  return element "tblPr" [] (named ++ [element "tblW" [("w", width.text), ("type", "dxa")],
    element "tblLook" [("val", "04A0"), ("firstRow", "1"), ("lastRow", "0"), ("firstColumn", "1"),
      ("lastColumn", "0"), ("noHBand", "0"), ("noVBand", "1")]])

/-- A cell with its paragraph. -/
def cell (width : String) (paragraph : Xml.Node) : Xml.Node :=
  element "tc" [] [element "tcPr" [] [element "tcW" [("type", "dxa"), ("w", width)]], paragraph]

/-- The mark of a row of the header. -/
def headerMark : Xml.Node :=
  element "trPr" [] [element "tblHeader"]

/-- A row, filled up with empty cells. -/
def row (s : Setting) (columns : Nat) (width : String) (isHeader : Bool)
    (cells : List Layout.Paragraph) : Drafting Xml.Node := do
  let written ← cells.mapM s.paragraph
  let filled := written ++ List.replicate (columns - cells.length) (element "p")
  return element "tr" [] ((if isHeader then [headerMark] else []) ++ filled.map (cell width))

/-- A table, unless it has no cells. -/
def table (s : Setting) (t : Layout.Table) : Drafting (List Xml.Node) := do
  let columns := t.columnCount
  if columns = 0 then return []
  let d ← get
  let width ← (Job.ofFault (do
    Length.twentieths ((← textWidth d.tree).fdiv columns)) : Job _)
  let width := toString width
  let properties ← (Job.ofFault (s.tableProperties d.styles t.width) : Job _)
  let rows ← t.rows.zipIdx.mapM fun (r, i) => s.row columns width ((i : Int) < t.headerRows) r.cells
  return [element "tbl" [] ([properties,
    element "tblGrid" [] (List.replicate columns (element "gridCol" [("w", width)]))] ++ rows)]

/-- A paragraph or a table. -/
def block (s : Setting) (b : Layout.Block) : Drafting (List Xml.Node) := do
  match b with
  | .table t => s.table t
  | .paragraph p =>
    if (body? (← get).tree).isNone then (Job.ofFault (.error .noSuchAttribute) : Job Unit)
    return [← s.paragraph p]

end Setting

end Manuscript.Docx
