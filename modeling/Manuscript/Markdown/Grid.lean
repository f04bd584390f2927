import Manuscript.Markdown.Block
import Manuscript.Markdown.Line
import Manuscript.Text.Blank

/-!
# Pipe tables

A table is a header line, a delimiter line and further lines of cells, all of one form: either every
line begins and ends with a pipe, or every line holds a pipe somewhere and the outer pipes, where
there are any, are borders of cells of their own. A pipe after a backslash is none.
-/

namespace Manuscript.Markdown

/-- The two forms of tables. -/
inductive GridForm
  /-- Every line begins and ends with a pipe. -/
  | framed
  /-- Every line holds a pipe. -/
  | bare
  deriving DecidableEq, Repr, Inhabited

/-- The cells of a line, of which `cell` is the part of the first one before, given in reverse. -/
def splitCellsFrom (cell : List Char) : List Char → List (List Char)
  | [] => [cell.reverse]
  | '|' :: cs =>
    if cell.head? = some '\\' then splitCellsFrom ('|' :: cell) cs
    else cell.reverse :: splitCellsFrom [] cs
  | c :: cs => splitCellsFrom (c :: cell) cs

/-- The cells of a line, without the blanks around them. -/
def splitCells (cs : List Char) : List (List Char) :=
  (splitCellsFrom [] (Text.strip cs)).map Text.strip

/-- The part of a line that its cells stand in, if it is a line of the form. -/
def GridForm.content? (form : GridForm) (l : Line) : Option (List Char) :=
  let body := (l.body.reverse.dropWhile Line.isBlankChar).reverse
  match form, body with
  | .framed, '|' :: inner =>
    if l.isFlush && inner.getLast? = some '|' then some inner.dropLast else none
  | .bare, _ :: rest => if l.isFlush && (rest.contains '|' || body.head? = some '|') then some body
    else none
  | _, _ => none

/-- The alignment that a cell of the delimiter line asks for: hyphens with colons on the sides that
    the text is moved to, or nothing. -/
def alignment? (cell : List Char) : Option (Option Alignment) :=
  let left := cell.head? == some ':'
  let marks := if left then cell.drop 1 else cell
  let right := marks.getLast? == some ':'
  let marks := if right then marks.dropLast else marks
  if cell.isEmpty then some none
  else if marks.isEmpty || marks.any (fun c => c ≠ '-') then none
  else match left, right with
    | true, true => some (some .center)
    | true, false => some (some .left)
    | false, true => some (some .right)
    | false, false => some none

/-- The columns that a line delimits, if it is a delimiter line of the form. -/
def delimiter? (form : GridForm) (l : Line) : Option (List (Option Alignment)) :=
  (form.content? l).bind fun content =>
    let marks := content.dropWhile fun c => c = ' '
    let isMark (c : Char) : Bool := "-|: \t".toList.contains c
    if marks.head?.any (fun c => c = '-' || c = ':') && content.all isMark
    then (splitCells content).mapM alignment?
    else none

/-- The cells of a header line of the form. -/
def header? (form : GridForm) (l : Line) : Option (List (List Char)) :=
  (form.content? l).bind fun content =>
    match form, content with
    | .framed, [] => none
    | .bare, _ :: rest => if rest.contains '|' then some (splitCells content) else none
    | _, _ => some (splitCells content)

/-- The form of the table that a header line and a delimiter line open. -/
def gridForm? (header delimiter : Line) : Option GridForm :=
  let opens (form : GridForm) : Bool :=
    (header? form header).isSome && (delimiter? form delimiter).isSome
  if opens .framed then some .framed else if opens .bare then some .bare else none

/-- The table of a header line and a delimiter line, if they have the same number of cells. -/
def grid? (form : GridForm) (header delimiter : Line) : Option Grid :=
  match header? form header, delimiter? form delimiter with
  | some cells, some columns =>
    if cells.length = columns.length then some ⟨columns, cells, []⟩ else none
  | _, _ => none

end Manuscript.Markdown
