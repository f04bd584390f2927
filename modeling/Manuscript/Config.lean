import Manuscript.Files
import Manuscript.Json
import Manuscript.Error
import Manuscript.Options
import Manuscript.Readers
import Manuscript.Text.Lowercase
import Manuscript.Text.Utf8
import Manuscript.Toml

/-!
# Configuration

A configuration is a mapping with a table for each set of options. It is kept in a file of its own,
in one of three formats, or in a section of a project file. The file is looked for in a folder and
in those around it (`findFrom`): in each folder the files of its own come first, in a fixed order,
and a project file counts if it has a section that is not empty.
-/

namespace Manuscript.Config

/-- The names of configuration files, the ones that are looked for first in front. -/
def fileNames : List String :=
  [".md2docx.toml", ".md2docx.yaml", ".md2docx.yml", ".md2docx.json"]

/-- The name of project files. -/
def projectFile : String := "pyproject.toml"

/-- The name of the section of a project file, within its table of tools. -/
def sectionName : String := "md2docx"

/-- An error about the configuration file at a path. -/
def errorAt (p : Path) (m : Message) (cause : Option Fault := none) : Error where
  kind := .config (some p.text)
  message := m
  cause := cause

/-! ## Reading -/

/-- The text of a file. -/
def readText (fs : Files) (p : Path) : Except Fault String := do
  let content ← (fs.read p).mapError Refusal.fault
  match Text.decodeUtf8? content with
  | some s => .ok s
  | none => .error .undecodable

/-- The formats of configuration files. Texts of YAML are handed to a reader. -/
inductive Format
  | project
  | toml
  | yaml (reader : YamlReader)
  | json
  deriving Inhabited

/-- The format that the name of a file stands for. -/
def Format.of? (reader : YamlReader) (p : Path) : Option Format :=
  let ext := Text.lower p.suffix
  if Text.lower p.name = projectFile then some project
  else if ext = ".toml" then some toml
  else if ext = ".yaml" ∨ ext = ".yml" then some (yaml reader)
  else if ext = ".json" then some json
  else none

/-- The text with a line feed for every line ending. -/
def unifyLines (text : String) : String :=
  .ofList (Text.unifyEndings text.toList)

/-- A member of a table, or an empty table if it has none of the name. -/
def member (v : Value) (name : String) : Except Fault Value :=
  match v with
  | .map entries => .ok ((Value.lookup entries name).getD (.map []))
  | _ => .error .noSuchAttribute

/-- The value that a text of a format stands for. Of a project file it is the section; an empty text
    of YAML is an empty mapping. -/
def Format.read (format : Format) (text : String) : Except Fault Value :=
  match format with
  | project => do member (← member (← Toml.read text) "tool") sectionName
  | toml => Toml.read text
  | yaml reader => do
    match ← reader (unifyLines text) with
    | .null => return .map []
    | v => return v
  | json => Json.read (unifyLines text)

/-- The value in a file of a format. -/
def readAs (fs : Files) (p : Path) (format : Format) : Except Fault Value :=
  readText fs p >>= format.read

/-- The error that the section of a project file is no table. -/
def noTable (p : Path) (v : Value) : Error :=
  errorAt p ("[tool." ++ sectionName ++ "] in " ++ p.text ++ " must be a table, got " ++
    v.kindName : String)

/-- The error that a file holds no mapping. -/
def noMapping (p : Path) (v : Value) : Error :=
  errorAt p ("Config file " ++ p.text ++ " must contain a mapping, got " ++ v.kindName : String)

/-- The error that the name of a file stands for no format. -/
def unsupported (p : Path) : Error :=
  errorAt p ("Unsupported config file format: " ++ Text.lower p.suffix ++
    ". Use .toml, .yaml, .yml or .json" : String)

/-- The error that a file breaks the rules of its format. -/
def invalid (p : Path) (why : String) : Error :=
  errorAt p { text := "Invalid config file " ++ p.text ++ ": ", detail := some why }
    (some (.malformed why))

/-- The error that a file cannot be read. -/
def unreadable (p : Path) (number : Nat) (reason : String) : Error :=
  let cause := Fault.system number reason
  errorAt p { text := "Error reading config file " ++ p.text ++ ": ",
              detail := some cause.message.toText } (some cause)

/-- The section of a project file. Without one it is empty. -/
def readSection (fs : Files) (p : Path) : Except Failure Value := do
  match ← (readAs fs p .project).mapError .fault with
  | .map entries => return .map entries
  | v => throw (.error (noTable p v))

/-- Reads a file in the format that its name stands for. -/
def readFile (reader : YamlReader) (fs : Files) (p : Path) : Except Failure Value :=
  match Format.of? reader p with
  | some .project => readSection fs p
  | some format => (readAs fs p format).mapError .fault
  | none => .error (.error (unsupported p))

/-- What becomes of a failure in reading a file: one in its format or in its reading is an error. -/
def explain (p : Path) (f : Failure) : Failure :=
  match f with
  | .fault (.malformed why) => .error (invalid p why)
  | .fault (.system n why) => .error (unreadable p n why)
  | _ => f

/-- The configuration in the file at a path. -/
def load (reader : YamlReader) (fs : Files) (p : Path) :
    Except Failure (List (Value × Value)) := do
  let refuse {α : Type} (m : String) : Except Failure α := .error (.error (errorAt p m))
  if !(← (fs.isThere p).mapError .fault) then
    refuse ("Configuration file does not exist: " ++ p.text)
  if !(← (fs.isFile p).mapError .fault) then
    refuse ("Configuration path is not a file: " ++ p.text)
  match ← (readFile reader fs p).mapError (explain p) with
  | .map entries => return entries
  | v => throw (.error (noMapping p v))

/-! ## Finding -/

/-- The first of some paths at which there is a file. -/
def firstFile (fs : Files) : List Path → Except Failure (Option Path)
  | [] => .ok none
  | p :: ps => do
    if ← (fs.isFile p).mapError .fault then return some p else firstFile fs ps

/-- Whether a project file has a section that is not empty. One that cannot be read has none. -/
def hasSection (fs : Files) (p : Path) : Except Failure Bool := do
  if ← (fs.isFile p).mapError .fault then
    match readSection fs p with
    | .ok v => return v.isTruthy
    | .error (.fault (.malformed _)) | .error (.fault (.system ..)) | .error (.error _) =>
      return false
    | .error f => throw f
  else return false

/-- The configuration file of a folder. -/
def findIn (fs : Files) (folder : Path) : Except Failure (Option Path) := do
  match ← firstFile fs (fileNames.map folder.child) with
  | some p => return some p
  | none =>
    let project := folder.child projectFile
    return if ← hasSection fs project then some project else none

/-- The configuration file of a folder, or of the nearest one around it that has one. The folder is
    given by its names, the innermost first. -/
def findUp (fs : Files) : List String → Except Failure (Option Path)
  | [] => findIn fs (Files.absolute [])
  | name :: outer => do
    match ← findIn fs (Files.absolute (name :: outer).reverse) with
    | some p => return some p
    | none => findUp fs outer

/-- The configuration file of a folder, or of the nearest one around it. Without a folder it is the
    one that is worked in. -/
def findFrom (fs : Files) (start : Option Path := none) : Except Failure (Option Path) := do
  let folder ← match start with
    | none => pure fs.working
    | some p => (fs.goal p).mapError .fault
  findUp fs folder.reverse

/-- The configuration file that holds where none is asked for: that of the folder that is worked in
    and those around it, or the one at home. -/
def discover (fs : Files) : Except Failure (Option Path) := do
  match ← findFrom fs with
  | some p => return some p
  | none => firstFile fs (fileNames.map (Files.absolute fs.home).child)

/-- The configuration that holds: the one asked for, the one of the environment, or the one that is
    found. Without any it is empty. -/
def loadFirst (reader : YamlReader) (fs : Files) (explicit environment : Option String) :
    Except Failure (List (Value × Value)) := do
  let given : Option String → Option String := fun s => s.filter (!·.isEmpty)
  match (given explicit).orElse fun _ => given environment with
  | some s => load reader fs (.ofText s)
  | none =>
    match ← discover fs with
    | some p => load reader fs p
    | none => return []

/-! ## Options -/

/-- The table of a set of options. -/
def tableName : OptionSet → String
  | .markdown => "markdown"
  | .docx => "docx"

/-- An error about what a configuration says. -/
def errorIn (m : Message) (cause : Option Fault := none) : Error where
  kind := .config none
  message := m
  cause := cause

/-- The error that there are tables of no set of options. -/
def unknownTables (names : List String) : Error :=
  errorIn ("Unknown configuration table(s): " ++ ", ".intercalate names : String)

/-- The error that the table of a set of options is none. -/
def noOptionTable (set : OptionSet) (v : Value) : Error :=
  errorIn ("[" ++ tableName set ++ "] must be a table, got " ++ v.kindName : String)

/-- Names in ascending order. -/
def ascending (names : List String) : List String :=
  names.mergeSort fun a b => decide (a ≤ b)

/-- The error that a table has names of no options. -/
def unknownOptions (set : OptionSet) (names : List String) : Error :=
  errorIn ("Unknown option(s) in [" ++ tableName set ++ "]: " ++ ", ".intercalate names ++
    ". Valid options: " ++ ", ".intercalate (ascending set.names) : String)

/-- The error that a table has a value that its option does not take. -/
def invalidValue (set : OptionSet) (f : Fault) : Error :=
  errorIn (f.message.after ("Invalid value in [" ++ tableName set ++ "]: ")) (some f)

/-- The keys of a mapping that are none of some names, in ascending order. Keys that are no text
    cannot be put in order. -/
def unknownKeys (entries : List (Value × Value)) (names : List String) :
    Except Fault (List String) := do
  let keys ← entries.mapM fun e => e.1.asText
  return ascending (keys.filter fun s => !names.contains s)

/-- The entries of a mapping whose keys are text. -/
def textEntries (entries : List (Value × Value)) : Settings :=
  entries.filterMap fun
    | (.text s, v) => some (s, v)
    | _ => none

/-- The settings of the table of a set of options. -/
def settings (set : OptionSet) : Value → Except Failure Settings
  | .map entries => do
    let unknown ← (unknownKeys entries set.names).mapError .fault
    if !unknown.isEmpty then throw (.error (unknownOptions set unknown))
    return textEntries entries
  | v => throw (.error (noOptionTable set v))

/-- The failure that a setting leads to in the table of a set of options. Faults of a value or of
    its kind are errors. -/
def settingFailure (set : OptionSet) (e : SettingError) : Failure :=
  match e.fault with
  | .badValue m => .error (invalidValue set (.badValue m))
  | .wrongKind => .error (invalidValue set .wrongKind)
  | f => .fault f

/-- The options with the table of their set applied, if a configuration has it. -/
def apply {set : OptionSet} (config : List (Value × Value)) (o : Options set) :
    Except Failure (Options set) :=
  match Value.lookup config (tableName set) with
  | none => .ok o
  | some v => do (o.update (← settings set v)).mapError (settingFailure set)

/-- The names of the tables. -/
def tableNames : List String :=
  [tableName .markdown, tableName .docx]

/-- The options with a configuration applied. -/
def options (config : List (Value × Value)) (markdown : Options .markdown := .start _)
    (docx : Options .docx := .start _) : Except Failure (Options .markdown × Options .docx) := do
  let unknown ← (unknownKeys config tableNames).mapError .fault
  if !unknown.isEmpty then throw (.error (unknownTables unknown))
  return (← apply config markdown, ← apply config docx)

end Manuscript.Config
