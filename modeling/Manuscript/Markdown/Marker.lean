import Manuscript.Markdown.Line

/-!
# Marks of blocks

The marks by which a line says what block it opens: rules, headings, fences, quotes and list items.
Each recogniser looks at one line; whether the block may open there is decided elsewhere.
-/

namespace Manuscript.Markdown

open Line (isBlankChar)

/-- The characters without the blanks at their end. -/
def trimEnd (cs : List Char) : List Char :=
  (cs.reverse.dropWhile isBlankChar).reverse

/-- Whether a line is a thematic break: at least three of one mark and nothing else but blanks. -/
def isThematicBreak (l : Line) : Bool :=
  let marks := l.text.filter fun c => !isBlankChar c
  l.isFlush && 3 ≤ marks.length &&
    match marks with
    | c :: _ => (c = '*' || c = '-' || c = '_') && marks.all fun d => d = c
    | [] => false

/-- The level and the text of a heading between hashes. -/
def atxHeading? (l : Line) : Option (Nat × List Char) :=
  let hashes := l.body.takeWhile fun c => c = '#'
  let rest := l.body.drop hashes.length
  if l.isFlush && 1 ≤ hashes.length && hashes.length ≤ 6 && rest.head?.all isBlankChar then
    let text := trimEnd (rest.dropWhile isBlankChar)
    -- hashes at the end belong to the mark if a blank or nothing stands before them
    let stripped := (text.reverse.dropWhile fun c => c = '#').reverse
    let text := if stripped.getLast?.all isBlankChar then trimEnd stripped else text
    some (hashes.length, text)
  else none

/-- The level of the heading that a line makes of the paragraph above it. -/
def setextLevel? (l : Line) : Option Nat :=
  let marks := trimEnd l.body
  if !l.isFlush then none
  else match marks with
    | '=' :: cs => if cs.all fun c => c = '=' then some 1 else none
    | '-' :: cs => if cs.all fun c => c = '-' then some 2 else none
    | _ => none

/-- The opening fence of a code block: its mark, how many there are, how far they are indented, and
    what is said after them. -/
structure Fence where
  mark : Char
  length : Nat
  indent : Nat
  info : List Char
  deriving DecidableEq, Repr, Inhabited

/-- The fence that a line opens a code block with. -/
def fence? (l : Line) : Option Fence :=
  match l.body with
  | mark :: _ =>
    let marks := l.body.takeWhile fun c => c = mark
    let info := l.body.drop marks.length
    if l.isFlush && (mark = '`' || mark = '~') && 3 ≤ marks.length &&
        !(mark = '`' && info.contains '`') then
      some ⟨mark, marks.length, l.indent, trimEnd (info.dropWhile isBlankChar)⟩
    else none
  | [] => none

/-- Whether a line closes a code block. -/
def Fence.isClosedBy (f : Fence) (l : Line) : Bool :=
  let marks := l.body.takeWhile fun c => c = f.mark
  l.isFlush && f.length ≤ marks.length && (l.body.drop marks.length).all isBlankChar

/-- What is left of a line of a block quote when its mark is taken off. -/
def quoted? (l : Line) : Option Line :=
  if l.isFlush && l.body.head? = some '>' then
    some (((l.dropColumns l.indent).dropChars 1).dropColumns 1)
  else none

/-- The mark of a list item. -/
structure Marker where
  /-- The bullet, or what ends the number. -/
  delimiter : Char
  /-- The number, if it is a numbered item. -/
  number : Option Nat
  /-- How many columns the text of the item is indented. -/
  width : Nat
  /-- What is left of the line. -/
  rest : Line
  deriving DecidableEq, Repr, Inhabited

/-- Whether nothing follows the mark. -/
def Marker.isEmpty (m : Marker) : Bool :=
  m.rest.isBlank

/-- The number that digits stand for. -/
def numberOf (ds : List Char) : Nat :=
  ds.foldl (fun n d => n * 10 + (d.toNat - 0x30)) 0

/-- The mark of a list item that a line begins with. The text of the item begins up to four columns
    after the mark; if it is further away or there is none, it is one column after. -/
def marker? (l : Line) : Option Marker :=
  let digits := l.body.takeWhile Char.isDigit
  let mark : Option (Char × Option Nat × Nat) :=
    match digits, l.body.drop digits.length with
    | [], c :: _ => if c = '-' || c = '+' || c = '*' then some (c, none, 1) else none
    | _ :: _, c :: _ =>
      if (c = '.' || c = ')') && digits.length ≤ 9 then
        some (c, some (numberOf digits), digits.length + 1)
      else none
    | _, _ => none
  match mark with
  | none => none
  | some (delimiter, number, length) =>
    let after := (l.dropColumns l.indent).dropChars length
    if !l.isFlush || !after.text.head?.all isBlankChar then none
    else
      let gap := if after.isBlank || 5 ≤ after.indent then 1 else after.indent
      some ⟨delimiter, number, l.indent + length + gap, after.dropColumns gap⟩

/-- Whether an item can go on from a paragraph: it has text, and if it has a number it is one. -/
def Marker.mayInterrupt (m : Marker) : Bool :=
  !m.isEmpty && m.number.all fun n => n = 1

end Manuscript.Markdown
