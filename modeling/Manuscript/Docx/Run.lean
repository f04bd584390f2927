import Manuscript.Docx.Color
import Manuscript.Docx.Measure
import Manuscript.Docx.Vocabulary
import Manuscript.Layout.Run
import Manuscript.Options.Docx
import Manuscript.Text.Blank

/-!
# Writing of runs

A run is written as its properties and its text. Tabs and line ends in the text are elements of
their own; a piece of text that blanks stand at an end of says that they are to be kept.
-/

namespace Manuscript.Docx

namespace Run

/-- A piece of text between tabs and line ends. Without any characters there is none. -/
def piece (cs : List Char) : List Xml.Node :=
  if cs.isEmpty then []
  else
    let keeps := (Text.strip cs).length < cs.length
    let space : Xml.Name := { lead := "xml", space := Xml.common, word := "space" }
    let attributes := if keeps then [(space, "preserve")] else []
    [.element (w "t") attributes [.text (.ofList cs)]]

/-- The text of a run, after a piece of it that is given in reverse. -/
def contentFrom (begun : List Char) : List Char → List Xml.Node
  | [] => piece begun.reverse
  | c :: cs =>
    if c = '\t' then piece begun.reverse ++ element "tab" :: contentFrom [] cs
    else if c = '\n' ∨ c = '\r' then piece begun.reverse ++ element "br" :: contentFrom [] cs
    else contentFrom (c :: begun) cs

/-- The text of a run. -/
def content (s : String) : List Xml.Node :=
  contentFrom [] s.toList

/-- The fonts of a run. -/
def fonts (o : DocxOptions) (f : Layout.Format) : Except Fault (List Xml.Node) := do
  if f.monospace then
    let font ← Xml.checked o.codeFont
    return [element "rFonts" [("ascii", font), ("hAnsi", font)]]
  else return []

/-- The size of a run. -/
def size (f : Layout.Format) : Except Fault (List Xml.Node) :=
  match f.fontSize with
  | none => .ok []
  | some points => return [element "sz" [("val", ← Length.sizeText points)]]

/-- The colour of a run. An empty one is none. -/
def color (f : Layout.Format) : Except Fault (List Xml.Node) :=
  match f.color.filter (!·.isEmpty) with
  | none => .ok []
  | some c => return [element "color" [("val", ← Color.written c)]]

/-- The properties of a run. -/
def properties (o : DocxOptions) (f : Layout.Format) : Except Fault (List Xml.Node) := do
  let flag (on : Bool) (word : String) := if on then [element word] else []
  let underline := if f.underline then [element "u" [("val", "single")]] else []
  let fonts ← fonts o f
  let size ← size f
  let all := fonts ++ flag f.bold "b" ++ flag f.italic "i" ++ (← color f) ++ size ++ underline
  return if all.isEmpty then [] else [element "rPr" [] all]

/-- A run with its text. -/
def ofText (o : DocxOptions) (r : Layout.Run) : Except Fault Xml.Node := do
  let text ← Xml.checked r.text
  return element "r" [] ((← properties o r.format) ++ content text)

/-- The run that ends a line. -/
def lineBreak : Xml.Node :=
  element "r" [] [element "br"]

/-- A run without any text. -/
def blank : Xml.Node :=
  element "r"

end Run

end Manuscript.Docx
