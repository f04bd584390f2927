import Manuscript.CommandLine.Switch

/-!
# Help

The text that says how the program is called (`usage`), and the longer one that says what each of
its switches does (`helpText`). Both are laid out in columns on lines of a fixed width.
-/

namespace Manuscript.CommandLine

/-- The name of the program. -/
def programName : String := "md2docx"

/-- The version of the program. -/
def programVersion : String := "0.1.0"

/-- The width of a line. -/
def lineWidth : Nat := 78

/-- The column in which texts about switches begin. -/
def textColumn : Nat := 24

/-- Words in lines of at most some width, as many in each as fit; a longer word has a line of its
    own. -/
def filled (width : Nat) (words : List String) : List String :=
  let add (ls : List String) (w : String) : List String :=
    match ls with
    | l :: rest => if l.length + 1 + w.length ≤ width then (l ++ " " ++ w) :: rest else w :: ls
    | [] => [w]
  (words.foldl add []).reverse

/-- Blanks. -/
def blanks (n : Nat) : String :=
  .ofList (List.replicate n ' ')

/-- A spelling of a switch with the word for its value. -/
def Switch.call (s : Switch) (spelling : String) : String :=
  match s.valueWord? with
  | some v => spelling ++ " " ++ v
  | none => spelling

/-- How the program is called. The document has a line of its own after the switches. -/
def usage : List String :=
  let lead := "usage: " ++ programName ++ " "
  let calls := Switch.all.map fun s => "[" ++ s.call (s.spellings.head?.getD "") ++ "]"
  let rows := filled (lineWidth - lead.length) calls ++ ["input"]
  rows.mapIdx fun i row => (if i = 0 then lead else blanks lead.length) ++ row

/-- What is said about one switch, or about the document: a head, and a text beside it in a column
    of its own, which begins on the next line if the head is too long. -/
def helpRow (head text : String) : List String :=
  let rows := filled (lineWidth - textColumn) (text.splitOn " ")
  let lead := "  " ++ head
  if lead.length + 2 ≤ textColumn then
    rows.mapIdx fun i row =>
      (if i = 0 then lead ++ blanks (textColumn - lead.length) else blanks textColumn) ++ row
  else lead :: rows.map (blanks textColumn ++ ·)

/-- The lines that help gives. -/
def helpLines : List String :=
  let row (s : Switch) := helpRow (", ".intercalate (s.spellings.map s.call)) s.purpose
  usage ++ ["", "Convert Markdown to a styled Word (.docx) document.", ""] ++
    ["positional arguments:"] ++
    helpRow "input" "Markdown file to convert, or \x27-\x27 to read from stdin" ++
    ["", "options:"] ++ Switch.all.flatMap row

/-- The text that help gives. -/
def helpText : String :=
  String.join (helpLines.map (· ++ "\n"))

end Manuscript.CommandLine
