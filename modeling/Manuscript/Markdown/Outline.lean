import Manuscript.Markdown.Address
import Manuscript.Markdown.Grid
import Manuscript.Markdown.Html
import Manuscript.Markdown.Marker

/-!
# The block structure of a text

A text is read line by line. What has been read so far is the sequence of closed blocks and, nested
in one another, the blocks that are still open (`Open`): quotes and lists with what is open inside
them, and innermost a leaf such as a paragraph or a code block. A line goes on with the open blocks
whose marks it has, opens new ones, or goes on with an open paragraph even though marks of the
blocks around it are missing.
-/

namespace Manuscript.Markdown

open Line (isBlankChar)

/-- A table that is still open: the lines of the paragraph that it interrupts, its header and
    delimiter lines, its further lines, the last one first, and the table so far. -/
structure OpenTable where
  form : GridForm
  before : List Line
  header : Line
  delimiter : Line
  lines : List Line
  grid : Grid
  deriving Repr, Inhabited

/-- The innermost open block. Lines are kept last one first. -/
inductive Leaf
  | none
  /-- The end of a list item that takes no more lines. -/
  | shut
  /-- A paragraph. While `barred` is set its lines open no table. -/
  | paragraph (lines : List Line) (barred : Bool)
  | fenced (fence : Fence) (lines : List Line)
  | indented (lines : List Line)
  | html (ending : Html.Ending) (lines : List Line)
  | table (t : OpenTable)
  deriving Repr, Inhabited

/-- What has been read so far at one level: the closed blocks, the last one first, and what is
    open. -/
inductive Open
  | leaf (done : List Block) (l : Leaf)
  | quote (done : List Block) (inside : Open)
  | list (done : List Block) (m : Marker) (items : List (List Block)) (inside : Open)
  deriving Repr, Inhabited

/-- The containers that blocks stand in. -/
inductive Container
  | quote
  | item
  deriving DecidableEq, Repr, Inhabited

/-- The containers around a block, the innermost first. -/
abbrev Context := List Container

/-- How deep containers may lie in one another. -/
def maxNesting : Nat := 20

/-- Whether a container may open in a context. -/
def Context.allows (ctx : Context) (c : Container) : Bool :=
  ctx.length < maxNesting || ctx.head? != some c

/-! ## Closing -/

/-- The text of lines, given last one first. -/
def joinLines (lines : List (List Char)) : List Char :=
  ['\n'].intercalate lines.reverse

/-- The blanks that text is stripped of. -/
def isTextBlank (c : Char) : Bool :=
  isBlankChar c || c = '\n' || c = '\x0c'

/-- A text without the blanks around it. -/
def stripText (cs : List Char) : List Char :=
  ((cs.dropWhile isTextBlank).reverse.dropWhile isTextBlank).reverse

/-- The text of the lines of a paragraph. -/
def paragraphText (lines : List Line) : List Char :=
  joinLines (lines.map Line.body)

/-- Splits the definitions off a text of at most `fuel` characters. -/
def splitDefinitions (fuel : Nat) (cs : List Char) : List Block × List Char :=
  match fuel, readDefinition cs with
  | fuel + 1, some (label, target, rest) =>
    let (ds, remaining) := splitDefinitions fuel rest
    (.definition label target :: ds, remaining)
  | _, _ => ([], cs)

/-- The blocks of the lines of a paragraph, the last one first: its definitions, and a paragraph if
    text remains. -/
def closeParagraph (lines : List Line) : List Block :=
  let text := paragraphText lines
  let (definitions, rest) := splitDefinitions text.length text
  let rest := stripText rest
  (if rest.isEmpty then [] else [.paragraph rest]) ++ definitions.reverse

/-- A text with a line feed after each of its lines, given last one first. -/
def endedLines (lines : List (List Char)) : List Char :=
  lines.reverse.flatMap fun l => l ++ ['\n']

/-- The blocks that a leaf becomes when it is closed, the last one first. -/
def Leaf.close : Leaf → List Block
  | .none | .shut => []
  | .paragraph lines _ => closeParagraph lines
  | .fenced f lines =>
    [.fenced (unescape f.info) (endedLines (lines.map fun l => (l.dropColumns f.indent).text))]
  | .indented lines =>
    let lines := lines.dropWhile Line.isBlank
    [.indented (joinLines (lines.map fun l => (l.dropColumns 4).text))]
  | .html _ lines => [.html (endedLines (lines.map Line.text))]
  | .table t => .table t.grid :: closeParagraph t.before

/-- The blocks that what has been read becomes when it is closed, the last one first. -/
def Open.closed : Open → List Block
  | .leaf done l => l.close ++ done
  | .quote done inside => .quote inside.closed.reverse :: done
  | .list done m items inside =>
    let items := (inside.closed.reverse :: items).reverse
    match m.number with
    | some n => .orderedList n items :: done
    | none => .bulletList items :: done

/-! ## Opening -/

/-- What stands at a place where a block may open. -/
inductive Place
  /-- Nothing that the line could go on with. -/
  | free
  /-- A paragraph, which the block would interrupt. -/
  | paragraph
  /-- Blocks whose marks the line lacks, with a paragraph innermost. -/
  | lazy
  deriving DecidableEq, Repr, Inhabited

/-- The leaf that a line opens at a place, if it opens one other than a paragraph. -/
def openLeaf? (place : Place) (l : Line) : Option (Block ⊕ Leaf) :=
  match atxHeading? l with
  | some (level, text) => some (.inl (.heading level (stripText text)))
  | none =>
    match fence? l with
    | some f => some (.inr (.fenced f []))
    | none =>
      match Html.opening? (place != .free) l with
      | some ending =>
        if ending.isMetBy l then some (.inl (.html (l.text ++ ['\n'])))
        else some (.inr (.html ending [l]))
      | none =>
        if isThematicBreak l then some (.inl .thematicBreak)
        else none

/-- What is open at a level after the line that opened a leaf there. -/
def Open.withLeaf (done : List Block) : Block ⊕ Leaf → Open
  | .inl b => .leaf (b :: done) .none
  | .inr l => .leaf done l

mutual

/-- What a line opens at a level where `done` are the closed blocks, if it opens anything other than
    a paragraph. The fuel is the length of the line. -/
def opening? (fuel : Nat) (ctx : Context) (place : Place) (done : List Block) (l : Line) :
    Option Open :=
  match fuel with
  | 0 => none
  | fuel + 1 =>
    match if ctx.allows .quote then quoted? l else none with
    | some rest => some (.quote done (fresh fuel (.quote :: ctx) [] rest))
    | none =>
      match openLeaf? place l with
      | some leaf => some (.withLeaf done leaf)
      | none =>
        match if ctx.allows .item then marker? l else none with
        | some m =>
          if place = .paragraph && !m.mayInterrupt then none
          else some (.list done m [] (fresh fuel (.item :: ctx) [] m.rest))
        | none => if !l.isFlush && place = .free then some (.leaf done (.indented [l])) else none

/-- What is open at a level after a line where no block was open. -/
def fresh (fuel : Nat) (ctx : Context) (done : List Block) (l : Line) : Open :=
  match fuel with
  | 0 => .leaf done (if l.isBlank then .none else .paragraph [l] false)
  | fuel + 1 =>
    if l.isBlank then .leaf done .none
    else (opening? fuel ctx .free done l).getD (.leaf done (.paragraph [l] false))

end

/-- The fuel that a line needs. -/
def Line.fuel (l : Line) : Nat :=
  2 * l.text.length + 2

/-! ## Going on -/

/-- Whether the innermost open block is a paragraph. -/
def Open.endsInParagraph : Open → Bool
  | .leaf _ (.paragraph _ _) => true
  | .leaf _ _ => false
  | .quote _ inside | .list _ _ _ inside => inside.endsInParagraph

/-- Adds a line to the paragraph that is innermost. -/
def Open.goOn (l : Line) : Open → Open
  | .leaf done (.paragraph lines barred) => .leaf done (.paragraph (l :: lines) barred)
  | .leaf done other => .leaf done other
  | .quote done inside => .quote done (inside.goOn l)
  | .list done m items inside => .list done m items (inside.goOn l)

/-- What is open after a line that goes on with a paragraph or takes its place. -/
def afterParagraph (tables : Bool) (ctx : Context) (done : List Block) (lines : List Line)
    (barred : Bool) (l : Line) : Open :=
  let plain : Open :=
    if l.isBlank then .leaf (closeParagraph lines ++ done) .none
    else
      let text := paragraphText lines
      let heading : Option Open := (setextLevel? l).bind fun level =>
        let (definitions, rest) := splitDefinitions text.length text
        let rest := stripText rest
        if rest.isEmpty then none
        else some (.leaf (.heading level rest :: definitions.reverse ++ done) .none)
      match heading with
      | some o => o
      | none =>
        match opening? l.fuel ctx .paragraph (closeParagraph lines ++ done) l with
        | some o => o
        | none =>
          let stillBarred := barred && (GridForm.framed.content? l).isSome
          .leaf done (.paragraph (l :: lines) stillBarred)
  if !tables || barred then plain
  else match lines with
    | [] => plain
    | header :: before =>
      match gridForm? header l with
      | none => plain
      | some form =>
        match form, grid? form header l with
        | _, some grid => .leaf done (.table ⟨form, before, header, l, [], grid⟩)
        | .framed, none => .leaf done (.paragraph (l :: lines) true)
        | .bare, none => plain

/-- What is open after a line that is none of the open table's. -/
def afterTable (ctx : Context) (done : List Block) (t : OpenTable) (l : Line) : Open :=
  fresh l.fuel ctx ((Leaf.table t).close ++ done) l

/-- What is open after the lines of what turned out to be no table. Those of a table with frames
    stay text; of another one only the header line does. -/
def withoutTable (ctx : Context) (done : List Block) (t : OpenTable) (l : Line) : Open :=
  match t.form with
  | .framed => .leaf done (.paragraph (l :: t.lines ++ [t.delimiter, t.header] ++ t.before) true)
  | .bare =>
    let again (o : Open) (l : Line) : Open :=
      match o with
      | .leaf done (.paragraph lines barred) => afterParagraph false ctx done lines barred l
      | o => fresh l.fuel ctx o.closed l
    (t.delimiter :: t.lines.reverse ++ [l]).foldl again
      (.leaf done (.paragraph (t.header :: t.before) false))

/-- What is open at a level after a line, given what was open. -/
def Open.add (tables : Bool) (ctx : Context) (l : Line) : Open → Open
  | .leaf done .none | .leaf done .shut => fresh l.fuel ctx done l
  | .leaf done (.paragraph lines barred) => afterParagraph tables ctx done lines barred l
  | .leaf done (.fenced f lines) =>
    if f.isClosedBy l then .leaf ((Leaf.fenced f lines).close ++ done) .none
    else .leaf done (.fenced f (l :: lines))
  | .leaf done (.indented lines) =>
    if l.isBlank || !l.isFlush then .leaf done (.indented (l :: lines))
    else fresh l.fuel ctx ((Leaf.indented lines).close ++ done) l
  | .leaf done (.html ending lines) =>
    if ending = .atBlank && l.isBlank then .leaf ((Leaf.html ending lines).close ++ done) .none
    else if ending.isMetBy l then .leaf ((Leaf.html ending (l :: lines)).close ++ done) .none
    else .leaf done (.html ending (l :: lines))
  | .leaf done (.table t) =>
    match t.form.content? l with
    | none => afterTable ctx done t l
    | some content =>
      let cells := splitCells content
      if cells.length = t.grid.columns.length then
        .leaf done (.table { t with
          lines := l :: t.lines
          grid := { t.grid with rows := t.grid.rows ++ [cells] } })
      else withoutTable ctx done t l
  | .quote done inside =>
    match quoted? l with
    | some rest => .quote done (inside.add tables (.quote :: ctx) rest)
    | none =>
      let closed := (Open.quote done inside).closed
      if l.isBlank then .leaf closed .none
      else if inside.endsInParagraph then
        (opening? l.fuel ctx .lazy closed l).getD ((Open.quote done inside).goOn l)
      else fresh l.fuel ctx closed l
  | .list done m items inside =>
    let shut : Bool := match inside with
      | .leaf [] .none => l.isBlank
      | .leaf _ .shut => true
      | _ => false
    if shut && l.isBlank then
      match inside with
      | .leaf blocks _ => .list done m items (.leaf blocks .shut)
      | inside => .list done m items inside
    else if l.isBlank then .list done m items (inside.add tables (.item :: ctx) l)
    else if !shut && m.width ≤ l.indent then
      .list done m items (inside.add tables (.item :: ctx) (l.dropColumns m.width))
    else
      let closed := (Open.list done m items inside).closed
      let sibling := if isThematicBreak l then none else
        (marker? l).filter fun n => n.delimiter = m.delimiter
      match sibling with
      | some n =>
        let item := fresh l.fuel (.item :: ctx) [] n.rest
        .list done { n with number := m.number } (inside.closed.reverse :: items) item
      | none =>
        if inside.endsInParagraph then
          (opening? l.fuel ctx .lazy closed l).getD ((Open.list done m items inside).goOn l)
        else fresh l.fuel ctx closed l

/-- The blocks of a text. -/
def blocks (tables : Bool) (text : List Char) : List Block :=
  let read : Open := (splitLines text).foldl (fun o l => Open.add tables [] l o) (.leaf [] .none)
  read.closed.reverse

end Manuscript.Markdown
