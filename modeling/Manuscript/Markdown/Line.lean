/-!
# Lines of Markdown

A line of a Markdown text, or what is left of it once the marks of the blocks around it are taken
off. Blanks at its beginning are counted in columns, and a tab reaches to the next multiple of four;
for that a line knows at which column it begins.
-/

namespace Manuscript.Markdown

/-- What is left of a line, and the column at which it begins. -/
structure Line where
  text : List Char
  column : Nat := 0
  deriving DecidableEq, Repr, Inhabited

namespace Line

/-- Whether a character is a space or a tab. -/
def isBlankChar (c : Char) : Bool :=
  c = ' ' || c = '\t'

/-- How many columns a tab takes at a column. -/
def tabWidth (column : Nat) : Nat :=
  4 - column % 4

/-- How many columns of blanks stand at the beginning of a text that begins at a column. -/
def indentFrom (column : Nat) : List Char → Nat
  | ' ' :: cs => 1 + indentFrom (column + 1) cs
  | '\t' :: cs => tabWidth column + indentFrom (column + tabWidth column) cs
  | _ => 0

/-- How many columns of blanks stand at the beginning. -/
def indent (l : Line) : Nat :=
  indentFrom l.column l.text

/-- Takes off up to `n` columns of blanks. What is left of a tab stays as spaces. -/
def dropFrom (n column : Nat) : List Char → Line
  | ' ' :: cs => if n = 0 then ⟨' ' :: cs, column⟩ else dropFrom (n - 1) (column + 1) cs
  | '\t' :: cs =>
    if n = 0 then ⟨'\t' :: cs, column⟩
    else if tabWidth column ≤ n then dropFrom (n - tabWidth column) (column + tabWidth column) cs
    else ⟨List.replicate (tabWidth column - n) ' ' ++ cs, column + n⟩
  | cs => ⟨cs, column⟩

/-- The line without its first columns, as far as they are blank. -/
def dropColumns (l : Line) (n : Nat) : Line :=
  dropFrom n l.column l.text

/-- The line without its first characters, none of which is a tab. -/
def dropChars (l : Line) (n : Nat) : Line :=
  ⟨l.text.drop n, l.column + n⟩

/-- The text after the blanks at the beginning. -/
def body (l : Line) : List Char :=
  l.text.dropWhile isBlankChar

/-- Whether there is nothing but blanks. Vertical tabs and form feeds count as blanks here. -/
def isBlank (l : Line) : Bool :=
  l.text.all fun c => isBlankChar c || c = '\x0b' || c = '\x0c'

/-- Whether the line is not indented so far that it would be code. -/
def isFlush (l : Line) : Bool :=
  l.indent < 4

end Line

/-- The characters of a text with each kind of line ending made a line feed. -/
def normalizeLineEnds : List Char → List Char
  | '\r' :: '\n' :: cs => '\n' :: normalizeLineEnds cs
  | '\r' :: cs => '\n' :: normalizeLineEnds cs
  | c :: cs => c :: normalizeLineEnds cs
  | [] => []

/-- The lines of a text, without their ends. -/
def splitLines (cs : List Char) : List Line :=
  let texts := (normalizeLineEnds cs).splitOn '\n'
  let texts := if texts.getLast? = some [] then texts.dropLast else texts
  texts.map fun t => { text := t }

end Manuscript.Markdown
