import Manuscript.Docx.Drawing
import Manuscript.Docx.Template
import Manuscript.Job

/-!
# Drafts

A draft is a document that is being written: the container that it started from, and the part that
is the document with its relationships, to which links and pictures add. Relationships and parts
that are added stay, even if what they were added for cannot be written.
-/

namespace Manuscript.Docx

/-- A document that is being written. -/
structure Draft where
  container : Container
  main : Part
  tree : Xml.Node
  styles : Styles
  /-- The names of the files of the pictures that were added, by the names of their parts. -/
  pictureFiles : List (String × String) := []
  /-- The number of the last drawing. -/
  drawings : Nat := 0
  deriving Inhabited

/-- A step of writing. -/
abbrev Drafting := StateT Draft Job

namespace Draft

/-- The name of the part of the styles, if it is there. -/
def stylesPart? (d : Draft) : Except Fault (Option Part) :=
  d.container.related d.main.relationships stylesRelation

/-- The draft with a relationship from the document, and the identifier of that. -/
def relate (d : Draft) (kind : String) (target : Target) : Draft × String :=
  let (relationships, id) := Container.relate d.main.relationships kind target
  ({ d with main := { d.main with relationships } }, id)

/-- All relationships: those of the container, of the document, and of the other parts. -/
def relationships (d : Draft) : List Relationship :=
  d.container.relationships ++ d.main.relationships ++
    (d.container.parts.filter (·.name != d.main.name)).flatMap (·.relationships)

/-- The parts that are pictures: a relationship says so. -/
def pictures (d : Draft) : List Part :=
  d.container.parts.filter fun p =>
    d.relationships.any fun r => r.kind == imageRelation && r.target == .part p.name

/-- The number in the name of a picture: the digits after the letters that the name starts with. -/
def pictureNumber? (name : String) : Option Nat :=
  let cs := (PartName.file name).toList
  let digits := (cs.dropWhile Char.isAlpha).takeWhile Char.isDigit
  if !cs.head?.any Char.isAlpha ∨ digits.isEmpty ∨ digits.head? = some '0' then none
  else (String.ofList digits).toNat?

/-- The name of the part for a new picture: it has the least number that no other one has. -/
def pictureName (d : Draft) (suffix : String) : String :=
  let taken := d.pictures.filterMap fun p => pictureNumber? p.name
  let number := Container.freeNumber taken.contains 1 d.pictures.length
  "/word/media/image" ++ toString number ++ "." ++ suffix

/-- The draft with a picture, the name of its part, and the name of its file. A picture of the same
    content is there only once, with the name of the file that it was first added from. -/
def addPicture (d : Draft) (p : Picture) (content : ByteArray) (file : String) :
    Draft × String × String :=
  match d.pictures.find? fun q => q.content.data == content.data with
  | some q => (d, q.name, (d.pictureFiles.lookup q.name).getD ("image." ++ p.format.suffix))
  | none =>
    let name := d.pictureName (PartName.suffix file)
    let part : Part := { name, mediaType := p.format.mediaType, content }
    ({ d with
        container := { d.container with parts := d.container.parts ++ [part] }
        pictureFiles := d.pictureFiles ++ [(name, file)] }, name, file)

/-- The draft with a drawing of a picture, as wide as is asked for. The picture stays, and the
    number of the drawing is used up, even if it cannot be drawn. -/
def draw (d : Draft) (p : Picture) (content : ByteArray) (file : String) (width : Length) :
    Draft × Except Fault Xml.Node :=
  let (d, name, file) := d.addPicture p content file
  let (d, id) := d.relate imageRelation (.part name)
  let number := d.drawings + 1
  ({ d with drawings := number }, do
    let height ← Drawing.height p width
    let width ← Length.sideText width
    let height ← Length.sideText height
    return Drawing.inline number id (← Xml.checked file) width height)

/-- The draft that a document starts from. -/
def start (c : Container) (main : Part) : Except Fault Draft := do
  let tree ← Xml.read main.content
  return { container := c, main, tree, styles := Styles.least, drawings := Drawing.greatest tree }

/-- The draft with another part in place of that of the same name, or with a new part. -/
def putPart (d : Draft) (p : Part) : Draft :=
  let parts := d.container.parts
  { d with container := { d.container with
      parts := if parts.any (·.name == p.name)
        then parts.map fun q => if q.name = p.name then p else q
        else parts ++ [p] } }

/-- The draft with its styles. A document that brings none gets those that hold where none is asked
    for. -/
def withStyles (d : Draft) : Except Fault Draft := do
  let (styles, name) ← stylesOf d.container d.main
  if name.isSome then return { d with styles }
  let part : Part := { name := Container.stylesName, mediaType := stylesType, content := .empty }
  return { ((d.putPart part).relate stylesRelation (.part part.name)).1 with styles }

/-- The draft with properties set. A document that brings none gets some. -/
def withProperties (d : Draft) (m : Metadata) (o : DocxOptions) : Except Fault Draft := do
  match ← d.container.related d.container.relationships propertiesRelation with
  | some p =>
    if p.mediaType ≠ propertiesType then throw .noSuchAttribute
    let tree ← Properties.update (← Xml.read p.content) m o
    return d.putPart { p with content := tree.bytes }
  | none =>
    let tree ← Properties.update Properties.least m o
    let (relationships, _) := Container.relate d.container.relationships propertiesRelation
      (.part Container.propertiesName)
    let part : Part :=
      { name := Container.propertiesName, mediaType := propertiesType, content := tree.bytes }
    return ({ d with container := { d.container with relationships } } : Draft).putPart part

/-- The draft with nodes at the end of the body, before its section. -/
def withBlocks (d : Draft) (blocks : List Xml.Node) : Draft :=
  let add (body : Xml.Node) :=
    body.withChildren (Xml.Node.insertBefore [w "sectPr"] blocks body.children)
  let children := Xml.Node.updateFirst (·.isNamed (w "body")) add d.tree.children
  { d with tree := d.tree.withChildren children }

/-- The container of a draft. -/
def finish (d : Draft) : Except Fault Container := do
  let stylesPart ← d.stylesPart?
  let d := match stylesPart with
    | some p => d.putPart { p with content := d.styles.tree.bytes }
    | none => d
  return (d.putPart { d.main with content := d.tree.bytes }).container

end Draft

end Manuscript.Docx
