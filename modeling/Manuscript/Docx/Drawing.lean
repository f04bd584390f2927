import Manuscript.Docx.Measure
import Manuscript.Docx.Vocabulary
import Manuscript.Picture.Basic

/-!
# Drawings

A picture stands in a run as a drawing of a size. The width is asked for, and the height follows
from it so that the picture keeps its shape.
-/

namespace Manuscript.Docx.Drawing

open Xml (Name)

/-- The length of a number of dots. -/
def native (dots : Option Number) (density : Nat) : Except Fault Length := do
  if density = 0 then throw (.badValue "division by zero")
  match dots with
  | none => throw .wrongKind
  | some (.whole n) => Length.ofUnits (.float (.ofQuotient n density)) Length.inch
  | some (.float x) => Length.ofUnits (.float (x.div (.ofInt density))) Length.inch

/-- The height of a picture that is as wide as is asked for. -/
def height (p : Picture) (width : Length) : Except Fault Length := do
  let nativeWidth ← native p.width p.horizontal
  let wanted ← Length.binary width
  if nativeWidth = 0 then throw (.badValue "division by zero")
  let factor := wanted.div (← Length.binary nativeWidth)
  let nativeHeight ← native p.height p.vertical
  Length.rounded ((← Length.binary nativeHeight).mul factor)

/-- An element of a name with attributes that belong to no space. -/
def node (name : Name) (attributes : List (String × String)) (children : List Xml.Node := []) :
    Xml.Node :=
  .element name (attributes.map fun (n, v) => (plain n, v)) children

/-- The drawing of the picture of a relationship. It has a number among the drawings of the document
    and the name of its file. -/
def inline (number : Nat) (relationship file width height : String) : Xml.Node :=
  let picture := node (pic "pic") [] [
    node (pic "nvPicPr") [] [
      node (pic "cNvPr") [("id", "0"), ("name", file)],
      node (pic "cNvPicPr") []],
    node (pic "blipFill") [] [
      .element (a "blip") [(r "embed", relationship)] [],
      node (a "stretch") [] [node (a "fillRect") []]],
    node (pic "spPr") [] [
      node (a "xfrm") [] [node (a "off") [("x", "0"), ("y", "0")],
        node (a "ext") [("cx", width), ("cy", height)]],
      node (a "prstGeom") [("prst", "rect")]]]
  element "drawing" [] [node (wp "inline") [] [
    node (wp "extent") [("cx", width), ("cy", height)],
    node (wp "docPr") [("id", toString number), ("name", "Picture " ++ toString number)],
    node (wp "cNvGraphicFramePr") [] [node (a "graphicFrameLocks") [("noChangeAspect", "1")]],
    node (a "graphic") [] [node (a "graphicData") [("uri", (pic "pic").space)] [picture]]]]

/-- The greatest number that an element of a tree has. -/
def greatest (tree : Xml.Node) : Nat :=
  (tree.nodes.filterMap fun n => (n.attribute? (plain "id")).bind String.toNat?).foldl max 0

end Manuscript.Docx.Drawing
