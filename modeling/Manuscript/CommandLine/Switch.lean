/-!
# Switches

What can be asked for on a command line besides the document itself. A switch has a long spelling
and perhaps a short one, and some switches take a value.
-/

namespace Manuscript.CommandLine

/-- The switches. -/
inductive Switch
  | help | output | config | template | noNativeHyperlinks | noNumberLists | logLevel | verbose
  | trace | logFile | version
  deriving DecidableEq, Repr, Inhabited

namespace Switch

/-- The switches, in the order in which they are looked through. -/
def all : List Switch :=
  [help, output, config, template, noNativeHyperlinks, noNumberLists, logLevel, verbose, trace,
    logFile, version]

/-- The spellings of a switch. -/
def spellings : Switch → List String
  | help => ["-h", "--help"]
  | output => ["-o", "--output"]
  | config => ["--config"]
  | template => ["--template"]
  | noNativeHyperlinks => ["--no-native-hyperlinks"]
  | noNumberLists => ["--no-number-lists"]
  | logLevel => ["--log-level"]
  | verbose => ["-v", "--verbose"]
  | trace => ["--trace"]
  | logFile => ["--log-file"]
  | version => ["--version"]

/-- The levels that can be asked for. -/
def levels : List String :=
  ["DEBUG", "INFO", "WARNING", "ERROR", "CRITICAL"]

/-- The word for the value of a switch, if it takes one: what it names, or what it can be. -/
def valueWord? : Switch → Option String
  | output => some "OUTPUT"
  | config => some "CONFIG"
  | template => some "TEMPLATE"
  | logFile => some "LOG_FILE"
  | logLevel => some ("\x7b" ++ ",".intercalate levels ++ "\x7d")
  | help | noNativeHyperlinks | noNumberLists | verbose | trace | version => none

/-- Whether a switch takes a value. -/
def takesValue (s : Switch) : Bool :=
  s.valueWord?.isSome

/-- What a switch does. -/
def purpose : Switch → String
  | help => "show this help message and exit"
  | output => "Output .docx path (default: input path with a .docx suffix)"
  | config => "Configuration file (.toml, .yaml, .yml, .json or pyproject.toml)"
  | template => "Template .docx whose styles the output adopts"
  | noNativeHyperlinks => "Write links as styled text instead of clickable hyperlinks"
  | noNumberLists => "Do not prefix ordered list items with their number"
  | logLevel => "Logging level (default: WARNING)"
  | verbose => "Enable debug logging"
  | trace => "Debug logging with timestamps and logger names"
  | logFile => "Also write log records to this file"
  | version => "show program\x27s version number and exit"

/-- All spellings, in the order in which they are looked through. -/
def spelled : List (String × Switch) :=
  all.flatMap fun s => s.spellings.map fun t => (t, s)

/-- The switch of a spelling. -/
def ofSpelling? (s : String) : Option Switch :=
  spelled.lookup s

/-- The name of a switch in messages. -/
def name (s : Switch) : String :=
  "/".intercalate s.spellings

end Switch

end Manuscript.CommandLine
