import Manuscript.CommandLine.Arguments
import Manuscript.CommandLine.Help
import Manuscript.Config
import Manuscript.Conversion
import Manuscript.Log.Journal

/-!
# The command line

A run converts the document that its arguments name and ends with a code, which is zero if all went
well. It changes no file but the document that it writes, and the file that records are added to if
one is asked for; folders on the way to the document are created. The document that is read is never
written over, however its path is spelled.
-/

namespace Manuscript.CommandLine

/-- The word that stands for the standard input. -/
def standardInput : String := "-"

/-- What a run can see. -/
structure World where
  files : Files := {}
  readers : Readers := {}
  /-- The path of a configuration file that the environment gives. -/
  environment : Option String := none
  input : ByteArray := .empty
  /-- The time that is written beside records. -/
  time : String := ""
  deriving Inhabited

/-- What a run leaves behind. -/
structure Outcome where
  code : Nat
  /-- The text on the standard output. -/
  output : String := ""
  /-- The lines on the standard error stream. -/
  shown : List Message := []
  /-- The lines added to the file of the journal. -/
  added : List Message := []
  files : Files
  deriving Inhabited

/-- The outcome of a run that converts nothing. -/
def Ending.outcome (e : Ending) (fs : Files) : Outcome :=
  match e with
  | .help => { code := 0, output := helpText, files := fs }
  | .version => { code := 0, output := programName ++ " " ++ programVersion ++ "\n", files := fs }
  | .misuse why =>
    let lines := usage ++ [programName ++ ": error: " ++ why]
    { code := 2, shown := lines.map fun l => { text := l }, files := fs }

/-! ## Conversion -/

/-- The settings of options that the arguments ask for. -/
def settings (a : Arguments) : Settings :=
  let template := (a.template.filter (!·.isEmpty)).map fun t => ("template_path", .text t)
  let off (flag : Bool) (name : String) : Settings := if flag then [(name, .bool false)] else []
  template.toList ++ off a.noNativeHyperlinks "native_hyperlinks" ++
    off a.noNumberLists "number_ordered_lists"

/-- The options that the configuration and, above it, the arguments ask for. -/
def choices (w : World) (a : Arguments) :
    Except Failure (Options .markdown × Options .docx) := do
  let config ← Config.loadFirst w.readers.yaml w.files a.config w.environment
  let (markdown, docx) ← Config.options config
  if (settings a).isEmpty then return (markdown, docx)
  return (markdown, ← (docx.update (settings a)).mapError (.fault ·.fault))

/-- The options that are asked for, by their fields. -/
def options (w : World) (a : Arguments) : Except Failure (MarkdownOptions × DocxOptions) := do
  let (markdown, docx) ← choices w a
  return (.of markdown, ← (DocxOptions.of docx).mapError .fault)

/-- An error about the path of the output. -/
def outputError (m : String) : Failure :=
  .error { kind := .validation (some "output"), message := m }

/-- The source and the path of the output that the arguments name. -/
def paths (w : World) (a : Arguments) : Except Failure (Source × Path) := do
  let output := a.output.filter (!·.isEmpty)
  if a.input = standardInput then
    match output with
    | none => throw (outputError "--output is required when reading from stdin")
    | some o => return (.bytes w.input, .ofText o)
  let input := Path.ofText a.input
  if !(← (w.files.isFile input).mapError .fault) then
    throw (.error (.ofKind (.fileNotFound input.text)))
  let output := match output with
    | some o => Path.ofText o
    | none => input.withSuffix ".docx"
  if (← (w.files.goal output).mapError .fault) = (← (w.files.goal input).mapError .fault) then
    throw (outputError ("Output would overwrite the input file: " ++ input.text))
  return (.path input, output)

/-- Creates the folders on the way to a path. Those that have been created stay if the rest cannot
    be. -/
def makeWay (fs : Files) (p : Path) : Files × Except Failure Unit :=
  if p.parent = {} then (fs, .ok ())
  else
    let (fs, made) := fs.ensureFolders p.parent
    (fs, made.mapError fun r => .fault r.fault)

/-- How a conversion ends: the files, the line that says so, and the code; or a failure that nothing
    was made of. -/
def ended (fs : Files) : Except Failure (Files × Path) → Except Failure (Files × Message × Nat)
  | .ok (fs, path) => .ok (fs, "Wrote " ++ path.text, 0)
  | .error (.error e) => .ok (fs, e.message.after "Error: ", e.exitCode)
  | .error (.fault (.system n why)) =>
    .ok (fs, (Fault.system n why).message.after "Error: ", Error.Family.file.exitCode)
  | .error f => .error f

/-- The conversion that the arguments ask for, and the path of its output. -/
def prepare (w : World) (a : Arguments) : Except Failure (Conversion × Path) := do
  let (markdown, docx) ← options w a
  let (source, path) ← paths w a
  return ({ origin := .markdown source, readers := w.readers, markdown, docx }, path)

/-- Converts the document that the arguments name. The records of it come with the result. -/
def convert (w : World) (a : Arguments) :
    Except Failure (Files × Message × Nat) × List Log.Record :=
  match prepare w a with
  | .error f => (ended w.files (.error f), [])
  | .ok (conversion, path) =>
    match makeWay w.files path with
    | (fs, .error f) => (ended fs (.error f), [])
    | (fs, .ok ()) =>
      match (conversion.toFile fs path.text).result with
      | (.ok fs, records) => (ended fs (.ok (fs, path)), records)
      | (.error f, records) => (ended (conversion.leftBehind fs path) (.error f), records)

/-- The journal that the arguments ask for. -/
def journal (a : Arguments) : Log.Journal where
  level := Log.chosenLevel a.logLevel a.verbose a.trace
  style := if a.trace then .traced else .plain

/-- A run with arguments. -/
def runWith (w : World) (a : Arguments) : Except Failure Outcome := do
  let started ← ((journal a).start w.files w.time a.logFile).mapError .fault
  let (result, records) := convert { w with files := started.files } a
  let lines := started.journal.lines w.time records
  let (fs, last, code) ← result
  let files := match started.journal.add fs lines with
    | .ok fs => fs
    | .error _ => fs
  return { code, shown := started.shown ++ lines ++ [last], added := started.added ++ lines, files }

/-- A run with the texts of a command line. -/
def run (w : World) (texts : List String) : Except Failure Outcome :=
  match Arguments.read texts with
  | .error e => .ok (e.outcome w.files)
  | .ok a => runWith w a

end Manuscript.CommandLine
