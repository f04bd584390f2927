import Manuscript.CommandLine

/-!
# What a run looks at

The paths that a run may look at, as far as they can be told from the files that are known already:
the arguments name some, a configuration names a template, and the document names its pictures
(`CommandLine.lookedAt`). Knowing more files tells more paths; after `CommandLine.rounds` rounds
there is nothing more to be told.
-/

namespace Manuscript.CommandLine

/-- The paths of the configuration files of a folder. -/
def configurationFiles (names : List String) : List Path :=
  (Config.fileNames ++ [Config.projectFile]).map (Files.absolute names).child

/-- The paths of the configuration files that may hold: the one asked for, or those that are looked
    for. -/
def configurations (w : World) (a : Arguments) : List Path :=
  match (a.config.filter (!·.isEmpty)).orElse fun _ => w.environment.filter (!·.isEmpty) with
  | some s => [.ofText s]
  | none =>
    let working := w.files.working
    let around := (List.range (working.length + 1)).map working.take
    around.flatMap configurationFiles ++ configurationFiles w.files.home

/-- The paths of the pictures of a document. -/
def pictures (c : Conversion) (fs : Files) : List Path :=
  match (c.layout fs).result.1 with
  | .error _ => []
  | .ok d => (d.runs.filterMap (·.imageSource)).filterMap fun address =>
    match Picture.locate (c.setting fs).base address with
    | .ok p => p
    | .error _ => none

/-- The paths that a run with arguments may look at. -/
def lookedAtWith (w : World) (a : Arguments) : List Path :=
  let named := ([a.output, a.logFile].filterMap id ++ [a.input]).map Path.ofText
  let found := match options w a, paths w a with
    | .ok (markdown, docx), .ok (source, output) =>
      output :: docx.templatePath.toList.map Path.ofText ++
        pictures { origin := .markdown source, readers := w.readers, markdown, docx } w.files
    | .ok (_, docx), .error _ => docx.templatePath.toList.map Path.ofText
    | .error _, _ => []
  configurations w a ++ named ++ found

/-- The paths that a run with the texts of a command line may look at. -/
def lookedAt (w : World) (texts : List String) : List Path :=
  match Arguments.read texts with
  | .error _ => []
  | .ok a => lookedAtWith w a

/-- How often more paths can be told: first those that the arguments name, then what the
    configuration and the document name, then the pictures of a document that starts from a
    template. -/
def rounds : Nat := 4

/-- Whether a command line asks for the standard input. -/
def readsInput (texts : List String) : Bool :=
  match Arguments.read texts with
  | .error _ => false
  | .ok a => a.input == standardInput

end Manuscript.CommandLine
