import Manuscript.Docx.Block

/-!
# Writing documents

A laid out document is written into the container that it starts from: the font and the properties
are set, and its paragraphs and tables follow what the body holds already (`Docx.build`). The
container is written as bytes or into a file.
-/

namespace Manuscript.Docx

/-- An error about a fault in a stage of writing. -/
def stageError (stage lead : String) (f : Fault) : Error where
  kind := .rendering (some stage)
  message := f.shown.after lead
  cause := some f

/-- Runs a job; a fault that it ends with becomes an error. -/
def explaining (j : Job α) (explain : Fault → Error) : Job α :=
  tryCatch j fun
    | .fault f => Job.refuse (explain f)
    | e => throw e

/-- The draft of a document before its blocks are written. -/
def prepare (o : DocxOptions) (m : Metadata) (d : Draft) : Except Fault Draft := do
  let d ← d.withStyles
  let _ ← d.styles.basePlace
  let font ← Xml.checked o.defaultFont
  let styles ← d.styles.withBaseFont font (← Length.sizeText o.defaultFontSize)
  ({ d with styles } : Draft).withProperties m o

/-- Runs a job of building a document; a fault that it ends with becomes an error. -/
def building (j : Job α) : Job α :=
  explaining j (stageError "rendering" "Failed to build DOCX: ")

/-- What is written for each block of a laid out document, and the draft that it belongs to. -/
def written (s : Setting) (document : Layout.Document) : Job (List (List Xml.Node) × Draft) := do
  let (container, main) ← Job.of (openTemplate s.files s.options)
  building (do
    let draft ← Job.ofFault (Draft.start container main >>= prepare s.options document.metadata)
    (document.blocks.mapM s.block).run draft)

/-- The container of a laid out document. -/
def build (s : Setting) (document : Layout.Document) : Job Container := do
  let (blocks, draft) ← written s document
  building (Job.ofFault (draft.withBlocks blocks.flatten).finish)

/-- The bytes of a laid out document. -/
def toBytes (s : Setting) (document : Layout.Document) : Job ByteArray := do
  let container ← build s document
  explaining (Job.ofFault container.bytes) (stageError "save" "Failed to write DOCX stream: ")

/-- What becomes of the files when the file at a path is written, or is not. -/
def placed (path : String) (r : Except Refusal α) : Job α :=
  match r with
  | .ok found => return found
  | .error .badName => throw (.fault Refusal.badName.fault)
  | .error r => Job.refuse (.ofKind (.outputWrite path) (some r.fault))

/-- Writes a laid out document into the file at a path, which is given as text. The result are the
    files with it. -/
def toFile (s : Setting) (document : Layout.Document) (path : String) : Job Files := do
  let container ← build s document
  -- the place of the file is looked for before its content
  let _ ← placed path (s.files.target (.ofText path))
  if !namesFile path then placed path (.error .isFolder)
  let fs ← placed path (s.files.write (.ofText path) (← Job.ofFault container.bytes))
  Job.record Log.info origin ("Wrote " ++ path)
  return fs

end Manuscript.Docx
