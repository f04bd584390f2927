import Manuscript.Files
import Manuscript.FrontMatter
import Manuscript.Node.OfToken
import Manuscript.Text.Utf8

/-!
# Sources

Markdown comes as text, as bytes, in a file, or in a stream of either bytes or characters. A short
text of one line that names a file stands for that file (`Source.named?`); the folder of a file is
the one that its relative pictures are looked up in (`Source.folder?`).
-/

namespace Manuscript

/-- Where Markdown comes from. -/
inductive Source
  | text (s : String)
  | bytes (content : ByteArray)
  | path (p : Path)
  /-- A stream of bytes, which is read to its end. -/
  | stream (content : ByteArray)
  /-- A stream of characters, which is read to its end. -/
  | characters (s : String)
  deriving Inhabited

namespace Source

/-- The text of bytes: UTF-8 after an optional mark, and if they are not, one character for each. -/
def decode (bytes : ByteArray) : String :=
  (Text.decodeUtf8? (Text.dropMark bytes)).getD (Text.decodeBytewise bytes)

/-- The text of the file at a path. -/
def readFile (fs : Files) (p : Path) : Except Failure String := do
  if ← (fs.isThere p).mapError .fault then
    match fs.read p with
    | .ok content => return decode content
    | .error .badName => throw (.fault Refusal.badName.fault)
    | .error r => throw (.error (.ofKind (.fileAccess p.text) (some r.fault)))
  else throw (.error (.ofKind (.fileNotFound p.text)))

/-- The text of the file at a path, if there is one. There is none where the operating system
    refuses to look for it. -/
def readFile? (fs : Files) (p : Path) : Except Failure (Option String) :=
  tryCatch (do
      if ← (fs.isFile p).mapError .fault then return some (← readFile fs p) else return none)
    fun
    | .fault (.system ..) => return none
    | e => throw e

/-- The text of the file that a text names, if it does: it is short, of one line, and there is such
    a file. -/
def named? (fs : Files) (s : String) : Except Failure (Option String) :=
  if s.length ≤ 260 ∧ ¬ s.toList.contains '\n' then readFile? fs (.ofText s) else return none

/-- The text of a source. -/
def load (fs : Files) : Source → Except Failure String
  | text s => do return (← named? fs s).getD s
  | bytes content | stream content => .ok (decode content)
  | path p => readFile fs p
  | characters s => .ok s

/-- The folder that relative pictures of a source are looked up in. This looks for the file that a
    text may name once more. -/
def folder? (fs : Files) : Source → Option Path
  | path p => some p.parent
  | text s =>
    if s.length ≤ 260 ∧ ¬ s.toList.contains '\n' then
      match fs.isFile (.ofText s) with
      | .ok true => some (Path.ofText s).parent
      | .ok false => none
      | .error _ => none
    else none
  | bytes _ | stream _ | characters _ => none

/-- The error that a text cannot be cut into tokens. -/
def unparsable (f : Fault) : Error where
  kind := .parsing (some "tokenize")
  message := f.shown.after "Failed to parse Markdown: "
  cause := some f

/-- The document of a source. -/
def document (r : Readers) (fs : Files) (o : MarkdownOptions) (s : Source) : Job Node := do
  let text ← Job.of (s.load fs)
  let (body, metadata) ←
    if o.parseFrontmatter then FrontMatter.read r.yaml text else pure (text, [])
  let tokens ← Job.of ((r.markdown o body).mapError fun f => .error (unparsable f))
  return .document (Node.ofTokens o tokens) (if o.extractMetadata then metadata else [])

end Source

end Manuscript
