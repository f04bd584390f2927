import Manuscript.Docx
import Manuscript.Render
import Manuscript.Source

/-!
# Conversion

A document is read from Markdown, or given as a tree, laid out with the styles that the written
document will have, and written. Relative pictures are looked up in the folder that the Markdown
came from.
-/

namespace Manuscript

/-- What is converted. -/
inductive Conversion.Origin
  | markdown (s : Source)
  | tree (n : Node)
  deriving Inhabited

/-- A conversion: what is converted, how it is read, and how it is laid out and written. -/
structure Conversion where
  origin : Conversion.Origin
  readers : Readers := {}
  markdown : MarkdownOptions := {}
  docx : DocxOptions := {}
  deriving Inhabited

namespace Conversion

/-- The tree that is converted. -/
def tree (c : Conversion) (fs : Files) : Job Node :=
  match c.origin with
  | .markdown s => s.document c.readers fs c.markdown
  | .tree n => return n

/-- What writing needs to know. -/
def setting (c : Conversion) (fs : Files) : Docx.Setting where
  options := c.docx
  files := fs
  base := match c.origin with
    | .markdown s => s.folder? fs
    | .tree _ => none

/-- The laid out document. -/
def layout (c : Conversion) (fs : Files) : Job Layout.Document := do
  let tree ← c.tree fs
  let names ← Job.of (Docx.availableStyles fs c.docx)
  return Render.render ⟨c.docx, some (names.filterMap id)⟩ [tree]

/-- The bytes of the written document. -/
def toBytes (c : Conversion) (fs : Files) : Job ByteArray := do
  Docx.toBytes (c.setting fs) (← c.layout fs)

/-- Writes the document into the file at a path. The result are the files with it. -/
def toFile (c : Conversion) (fs : Files) (path : String) : Job Files := do
  Docx.toFile (c.setting fs) (← c.layout fs) path

/-- The files after a conversion that could not write into the file at a path: if the document was
    there and writing it broke off, something is left of it. -/
def leftBehind (c : Conversion) (fs : Files) (p : Path) : Files :=
  match (c.toBytes fs).result.1 with
  | .ok _ => fs.afterRefusal p
  | .error _ => fs

end Conversion

end Manuscript
