import Manuscript.Docx.Draft
import Manuscript.Docx.Run
import Manuscript.Layout.Document
import Manuscript.Picture
import Manuscript.Picture.Location

/-!
# Writing of text

Runs are written one after another. Runs in a row that belong to one link are written within it; if
that cannot be done they are written as they are, after a warning. A run that stands for a picture
is written as that picture; if it cannot be, its text stays.
-/

namespace Manuscript.Docx

/-- What writing needs to know: the options, the files, and the folder of the document. -/
structure Setting where
  options : DocxOptions := {}
  files : Files := {}
  base : Option Path := none
  deriving Inhabited

/-- The part that records of writing come from. -/
def origin : String := "md2docx.sinks.docx"

namespace Setting

/-- A step that changes the draft. -/
def step (f : Draft → Draft × α) : Drafting α :=
  modifyGet fun d => ((f d).2, (f d).1)

/-! ## Pictures -/

/-- Says that a picture cannot be used, and ends the writing if that is asked for. -/
def refusePicture (s : Setting) (m : Message) (cause : Option Fault := none) : Drafting Unit := do
  (Job.warn origin m : Job Unit)
  if s.options.failOnResourceErrors then
    (Job.refuse { kind := .rendering (some "image_processing"), message := m, cause } : Job Unit)

/-- The picture in a file, with the bytes of the file and the width that it is drawn in. -/
def readPicture (s : Setting) (p : Path) : Except Fault (Length × ByteArray × Picture) := do
  let width ← Length.ofUnits s.options.imageWidthInches Length.inch
  let content ← (s.files.read p).mapError Refusal.fault
  match Picture.read? content with
  | some picture => return (width, content, picture)
  | none => throw (.malformed "not a picture of a known format")

/-- The drawing of the picture in a file. -/
def drawing (s : Setting) (p : Path) : Drafting (Except Fault Xml.Node) :=
  match s.readPicture p with
  | .error f => return .error f
  | .ok (width, content, picture) => step fun d => d.draw picture content p.name width

/-- The file that the address of a picture leads to, and whether it is there. There is none for a
    picture elsewhere and for a file that is not taken for a picture. -/
def lookUp (s : Setting) (address : String) : Except Fault (Option (Path × Bool)) := do
  match ← Picture.locate s.base address with
  | none => return none
  | some p => if Picture.isSupported p then return some (p, ← s.files.isFile p) else return none

/-- What is written for a picture, and whether it stands for the whole run. A picture that cannot be
    written leaves an empty run. -/
def picture (s : Setting) (address : String) : Drafting (List Xml.Node × Bool) := do
  match ← (Job.ofFault (s.lookUp address) : Job _) with
  | none => return ([], false)
  | some (p, false) =>
    s.refusePicture ("Image not found: " ++ p.text)
    return ([], false)
  | some (p, true) =>
    match ← s.drawing p with
    | .ok n => return ([element "r" [] [n]], true)
    | .error f =>
      let text := "Failed to embed image " ++ p.text ++ ": "
      s.refusePicture { text, detail := some f.message.toText } (some f)
      return ([Run.blank], false)

/-! ## Runs -/

/-- Where the picture lies that is looked for in place of a run. -/
def wanted? (s : Setting) (r : Layout.Run) : Option String :=
  if !r.isBreak && s.options.embedImages then r.imageSource.filter (!·.isEmpty) else none

/-- A run that belongs to no link. -/
def run (s : Setting) (r : Layout.Run) : Drafting (List Xml.Node) := do
  if r.isBreak then return [Run.lineBreak]
  match s.wanted? r with
  | none => return [← (Job.ofFault (Run.ofText s.options r) : Job _)]
  | some address =>
    let (drawn, whole) ← s.picture address
    if whole then return drawn
    return drawn ++ [← (Job.ofFault (Run.ofText s.options r) : Job _)]

/-- Runs that belong to no link. -/
def runs (s : Setting) (rs : List Layout.Run) : Drafting (List Xml.Node) := do
  return (← rs.mapM s.run).flatten

/-- Runs within a link to an address. A run that ends a line, or stands for a picture, counts as its
    text. -/
def link (s : Setting) (address : String) (rs : List Layout.Run) :
    Drafting (Except Fault Xml.Node) := do
  let id ← step fun d => d.relate hyperlinkRelation (.external address)
  return do
    return .element (w "hyperlink") [(r "id", id)] (← rs.mapM (Run.ofText s.options))

/-- The runs in a row that belong to the same link, or to none. -/
def groups (rs : List Layout.Run) : List (List Layout.Run) :=
  rs.splitBy fun a b => a.hyperlink == b.hyperlink

/-- Runs in a row that belong to the same link, or to none; `link` writes those of a link. -/
def group (s : Setting) (link : String → List Layout.Run → Drafting (Except Fault Xml.Node))
    (rs : List Layout.Run) : Drafting (List Xml.Node) := do
  match rs.head?.bind (·.hyperlink) with
  | none => s.runs rs
  | some address =>
    match ← link address rs with
    | .ok n => return [n]
    | .error f =>
      (Job.warn origin {
        text := "Could not create hyperlink to " ++ address ++ ", writing styled text instead: "
        detail := some f.message.toText } : Job Unit)
      s.runs rs

/-- The runs of a paragraph. -/
def text (s : Setting) (rs : List Layout.Run) : Drafting (List Xml.Node) := do
  if s.options.nativeHyperlinks then return (← (groups rs).mapM (s.group s.link)).flatten
  else s.runs rs

end Setting

end Manuscript.Docx
