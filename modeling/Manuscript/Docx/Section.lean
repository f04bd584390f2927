import Manuscript.Docx.Measure
import Manuscript.Docx.Vocabulary

/-!
# Sections

A section of a document has a page with margins. The text is as wide as the page of the last section
without its margins.
-/

namespace Manuscript.Docx

/-- The body of a document. -/
def body? (tree : Xml.Node) : Option Xml.Node :=
  tree.child? (w "body")

/-- The sections of a document, in order: they stand in the body, or close a paragraph of it. -/
def sections (tree : Xml.Node) : List Xml.Node :=
  let within (n : Xml.Node) : List Xml.Node :=
    if n.isNamed (w "sectPr") then [n]
    else if n.isNamed (w "p") then
      (n.childrenNamed (w "pPr")).flatMap fun p => p.childrenNamed (w "sectPr")
    else []
  (tree.childrenNamed (w "body")).flatMap fun b => b.children.flatMap within

/-- A length that an element of a section gives. One that is not given, or zero, is another one. -/
def lengthIn (n : Xml.Node) (name word : String) (other : Length) : Except Fault Length := do
  match (n.child? (w name)).bind (·.attribute? (w word)) with
  | none => return other
  | some s =>
    let l ← Length.ofText s
    return if l = 0 then other else l

/-- The width of the text of a document. -/
def textWidth (tree : Xml.Node) : Except Fault Length := do
  match (sections tree).getLast? with
  | none => throw .noSuchPlace
  | some n =>
    let page ← lengthIn n "pgSz" "w" (17 * Length.inch / 2)
    let left ← lengthIn n "pgMar" "left" Length.inch
    let right ← lengthIn n "pgMar" "right" Length.inch
    return page - left - right

end Manuscript.Docx
