import Manuscript.Job
import Manuscript.Readers
import Manuscript.Text.Lines

/-!
# Front matter

A text may open with a block of properties: YAML between two lines of three dashes. The block ends
at the first line that is three dashes with nothing but blanks around them, and what follows it is
the body (`split?`). A block that is no mapping is dropped; one that breaks the rules of YAML is
dropped with a warning.
-/

namespace Manuscript.FrontMatter

/-- The line that closes the block, without the blanks around it. -/
def fence : List Char := ['-', '-', '-']

/-- Whether a text opens with the line that opens the block. -/
def isOpen (cs : List Char) : Bool :=
  "---\n".toList.isPrefixOf cs || "---\r\n".toList.isPrefixOf cs

/-- Whether a line closes the block. -/
def isClose (line : List Char) : Bool :=
  Text.strip line == fence

/-- The block and the body of a text that opens with a complete block. -/
def split? (text : String) : Option (String × String) :=
  let cs := text.toList
  if isOpen cs then
    let lines := (Text.lines cs).tail
    match lines.dropWhile fun l => !isClose l with
    | _ :: body =>
      let block := lines.takeWhile fun l => !isClose l
      some (.ofList block.flatten, .ofList body.flatten)
    | [] => none
  else none

/-- The text of a key. A whole number with too many digits has none. -/
def keyText : Value → Except Fault String
  | .number (.whole n) =>
    if Text.maxDigits < (toString n.natAbs).length then .error (.badValue Text.unshowable)
    else .ok (toString n)
  | key => .ok key.toText

/-- Properties with those of some entries, by the text of their keys. -/
def propertiesFrom (before : Metadata) : List (Value × Value) → Except Fault Metadata
  | [] => .ok before
  | (key, v) :: rest => do propertiesFrom (before.put (← keyText key) v) rest

/-- The properties that a value stands for: the entries of a mapping. -/
def properties : Value → Except Fault Metadata
  | .map entries => propertiesFrom [] entries
  | _ => .ok []

/-- The part that records come from. -/
def origin : String := "md2docx.parsers.markdown"

/-- The body of a text and the properties of its block. Without a complete block the text is the
    body. -/
def read (reader : YamlReader) (text : String) : Job (String × Metadata) :=
  match split? text with
  | none => return (text, [])
  | some (block, body) =>
    match reader block with
    | .ok v => return (body, ← Job.ofFault (properties v))
    | .error (.malformed why) => do
      Job.warn origin { text := "Ignoring malformed YAML front matter: ", detail := some why }
      return (body, [])
    | .error f => throw (.fault f)

end Manuscript.FrontMatter
