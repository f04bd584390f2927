import Manuscript.Layout.Run
import Manuscript.Node
import Manuscript.Options.Docx

/-!
# Laying out inlines

A list of inlines becomes a list of runs. Emphasis, underlining and links refine the format of what
is beneath them and of nothing else; text, code, pictures and breaks are the leaves that give a run
each. A link whose label gives no text shows where it leads (`labelled`), and a node that is no
inline is laid out as the nodes beneath it.
-/

namespace Manuscript.Render

open Layout

/-- The runs of a link: those of its label, and after them the address if the label gives no
    text. -/
def labelled (url : String) (f : Format) (runs : List Run) : List Run :=
  if runs.any (fun r => !r.text.isEmpty) || url.isEmpty then runs
  else runs ++ [{ text := url, format := f, hyperlink := some url }]

/-- The format beneath a link. -/
def linkFormat (o : DocxOptions) (f : Format) : Format :=
  f.merge [.underline true, .color (some o.linkColor)]

/-- The run of a text, if there is any text. -/
def textRuns (s : String) (f : Format) (link : Option String) : List Run :=
  if s.isEmpty then [] else [{ text := s, format := f, hyperlink := link }]

/-- What is shown for a picture: its description, or where it lies if there is none. -/
def imageText (url alt : String) : String :=
  if alt.isEmpty then "[Image: " ++ url ++ "]" else alt

mutual

/-- The runs of a node, under the format `f` and within the link `link`. -/
def inline (o : DocxOptions) (f : Format) (link : Option String) : Node → List Run
  | .text s _ => textRuns s f link
  | .code s _ => textRuns s (f.apply (.monospace true)) link
  | .strong ns _ => inlines o (f.apply (.bold true)) link ns
  | .emphasis ns _ => inlines o (f.apply (.italic true)) link ns
  | .underline ns _ => inlines o (f.apply (.underline true)) link ns
  | .link url ns _ _ =>
    labelled url (linkFormat o f) (inlines o (linkFormat o f) (some url) ns)
  | .image url alt _ _ =>
    [{ text := imageText url alt, format := f, hyperlink := link,
       imageSource := if url.isEmpty then none else some url }]
  | .softBreak _ =>
    if o.softBreakAsSpace then [{ text := " ", format := f, hyperlink := link }]
    else [{ text := "", format := f, kind := .softBreak }]
  | .hardBreak _ => [{ text := "", format := f, kind := .hardBreak }]
  | .htmlInline .. | .htmlBlock .. | .fencedCode .. | .indentedCode .. | .thematicBreak .. => []
  | .table none rows _ => inlines o f link rows
  | .table (some header) rows _ => inline o f link header ++ inlines o f link rows
  | .document ns _ | .heading _ ns _ | .paragraph ns _ | .bulletList ns _ | .orderedList _ ns _
  | .listItem ns _ | .tableRow ns _ | .tableCell ns _ | .blockQuote ns _ => inlines o f link ns

/-- The runs of a list of nodes, in order. -/
def inlines (o : DocxOptions) (f : Format) (link : Option String) : List Node → List Run
  | [] => []
  | n :: ns => inline o f link n ++ inlines o f link ns

end

theorem inlines_append (o : DocxOptions) (f : Format) (link : Option String) (ns ms : List Node) :
    inlines o f link (ns ++ ms) = inlines o f link ns ++ inlines o f link ms := by
  induction ns with
  | nil => rfl
  | cons n ns ih => simp [inlines, ih]

/-- The runs of inlines under the format `f`, outside of any link. -/
def runs (o : DocxOptions) (f : Format) (ns : List Node) : List Run :=
  inlines o f none ns

theorem runs_append (o : DocxOptions) (f : Format) (ns ms : List Node) :
    runs o f (ns ++ ms) = runs o f ns ++ runs o f ms :=
  inlines_append o f none ns ms

end Manuscript.Render
