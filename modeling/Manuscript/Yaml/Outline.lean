import Manuscript.Yaml.Scalar
import Manuscript.Yaml.Tag

/-!
# The outline of a YAML text

A text is cut into tokens from its start to its end. Indentation opens and closes blocks: a block is
open as long as the tokens stand to the right of its indentation. A key is only known for one when
the colon after it is met, so each token that may begin one is remembered (`Candidate`), and its
mark is inserted later; a candidate lasts to the end of its line and for 1024 characters at most.
-/

namespace Manuscript.Yaml

/-- A token that may turn out to begin a key. -/
structure Candidate where
  /-- How many tokens stand before it. -/
  place : Nat
  /-- Whether it has to be a key, because it stands where only keys may. -/
  required : Bool
  index : Nat
  line : Nat
  column : Nat
  deriving Repr, Inhabited

/-- The state of cutting a text into tokens. -/
structure Outline where
  cursor : Cursor
  tokens : Array Token := #[]
  /-- The indentation of the innermost open block, and of those around it. -/
  indent : Int := -1
  outerIndents : List Int := []
  /-- Whether a key may begin here. -/
  keyAllowed : Bool := true
  /-- The candidate of the innermost brackets, and those of the brackets and blocks around them. -/
  candidate : Option Candidate := none
  outerCandidates : List (Option Candidate) := []
  deriving Inhabited

namespace Outline

/-- Whether the text stands within brackets. -/
def inFlow (o : Outline) : Bool :=
  !o.outerCandidates.isEmpty

/-- Adds a token. -/
def push (o : Outline) (t : Token) : Outline :=
  { o with tokens := o.tokens.push t }

/-- Whether a candidate is too far away to be a key. -/
def Candidate.isStale (c : Candidate) (place : Cursor) : Bool :=
  c.line != place.line || 1024 < place.index - c.index

/-- Forgets a candidate, which must not be one that has to be a key. -/
def forget (c : Option Candidate) : Except Fault Unit :=
  if c.any (·.required) then refuse "could not find expected ':'" else .ok ()

/-- Forgets the candidates that are too far away. -/
def dropStale (o : Outline) : Except Fault Outline := do
  let keep (c : Option Candidate) : Except Fault (Option Candidate) := do
    if c.any (Candidate.isStale · o.cursor) then
      forget c
      return none
    else return c
  let outerCandidates ← o.outerCandidates.mapM keep
  return { o with candidate := ← keep o.candidate, outerCandidates }

/-- Forgets the candidate of the innermost brackets. -/
def dropCandidate (o : Outline) : Except Fault Outline := do
  forget o.candidate
  return { o with candidate := none }

/-- Makes the next token a candidate, if a key may begin here. -/
def saveCandidate (o : Outline) : Except Fault Outline := do
  if o.keyAllowed then
    forget o.candidate
    let c := o.cursor
    return { o with candidate := some {
      place := o.tokens.size
      required := !o.inFlow && o.indent == c.column
      index := c.index
      line := c.line
      column := c.column } }
  else return o

/-- Closes the blocks that are indented more than a column. Within brackets there are none. -/
def closeBlocks (o : Outline) (column : Int) : Outline :=
  if o.inFlow then o
  else
    let inner := o.outerIndents.takeWhile (column < ·)
    match o.outerIndents.dropWhile (column < ·) with
    | outer :: rest =>
      if column < o.indent then
        { o with
          tokens := o.tokens ++ Array.replicate (inner.length + 1) .blockEnd
          indent := outer
          outerIndents := rest }
      else o
    | [] => o

/-- Opens a block at a column, if it is to the right of the one that is open. -/
def openBlock? (o : Outline) (column : Int) : Option Outline :=
  if o.indent < column then
    some { o with indent := column, outerIndents := o.indent :: o.outerIndents }
  else none

/-- After blanks, comments and line ends. Outside of brackets, a key may begin on a new line. -/
def skipBlanks : Nat → Outline → Outline
  | 0, o => o
  | fuel + 1, o =>
    let c := o.cursor.skipSpaces.skipComment
    if c.peek.any isBreak then
      skipBlanks fuel { o with cursor := c.lineBreak.2, keyAllowed := o.keyAllowed || !o.inFlow }
    else { o with cursor := c }

/-- A token of some characters that no key begins with or continues after. -/
def indicator (o : Outline) (t : Token) (length : Nat) (keyAllowed : Bool) : Outline :=
  { o.push t with cursor := o.cursor.advance length, keyAllowed }

/-- The mark of a document or a directive: it closes all blocks. -/
def leaveBlocks (o : Outline) : Except Fault Outline := do
  let o ← (o.closeBlocks (-1)).dropCandidate
  return { o with keyAllowed := false }

/-- An opening bracket. -/
def openFlow (o : Outline) (t : Token) : Except Fault Outline := do
  let o ← o.saveCandidate
  let o := o.indicator t 1 true
  return { o with candidate := none, outerCandidates := o.candidate :: o.outerCandidates }

/-- A closing bracket. -/
def closeFlow (o : Outline) (t : Token) : Except Fault Outline := do
  let o ← o.dropCandidate
  match o.outerCandidates with
  | outer :: rest =>
    let o := o.indicator t 1 false
    return { o with candidate := outer, outerCandidates := rest }
  | [] => refuse "found a bracket that closes nothing"

/-- The mark of an entry or a key of a block, which opens the block if it is the first. -/
def blockMark (o : Outline) (start mark : Token) (keyAllowed : Bool) : Except Fault Outline := do
  let o ← if o.inFlow then pure o
    else if o.keyAllowed then pure (((o.openBlock? o.cursor.column).map (·.push start)).getD o)
    else refuse "entries and keys are not allowed here"
  let o ← o.dropCandidate
  return o.indicator mark 1 keyAllowed

/-- The colon before a value. It makes the candidate a key, whose mark is inserted before it. -/
def valueMark (o : Outline) : Except Fault Outline :=
  match o.candidate with
  | some k =>
    let o := { o with candidate := none }
    let opened := if o.inFlow then none else o.openBlock? k.column
    let o := opened.getD o
    let marks : Array Token := if opened.isSome then #[.blockMappingStart, .key] else #[.key]
    let tokens := o.tokens.extract 0 k.place ++ marks ++ o.tokens.extract k.place o.tokens.size
    .ok ({ o with tokens }.indicator .value 1 false)
  | none => o.blockMark .blockMappingStart .value !o.inFlow

/-- A token that a key may begin with. -/
def word (o : Outline) (take : Cursor → Except Fault (Token × Cursor)) : Except Fault Outline := do
  let o ← o.saveCandidate
  let (t, cursor) ← take o.cursor
  return { o.push t with cursor, keyAllowed := false }

/-- A plain scalar. After the end of a line a key may begin. -/
def plain (o : Outline) : Except Fault Outline := do
  let o ← o.saveCandidate
  let (text, cursor, ended) := takePlain o.inFlow o.indent o.cursor
  return { o.push (.scalar text true) with cursor, keyAllowed := ended }

/-- Whether a plain scalar begins here. -/
def beginsPlain (o : Outline) (c : Char) : Bool :=
  if endsWord (some c) then false
  else if "-?:,[]\x7b\x7d#&*!|>'\x22%@\x60".toList.contains c then
    !endsWord (o.cursor.peek 1) && (c == '-' || (!o.inFlow && (c == '?' || c == ':')))
  else true

/-- Takes the next token, at a character. -/
def step (o : Outline) (c : Char) : Except Fault Outline := do
  let cursor := o.cursor
  let atStart := cursor.column = 0
  let spaced := endsWord (cursor.peek 1)
  let name (make : String → Token) (cursor : Cursor) : Except Fault (Token × Cursor) :=
    (takeName cursor.next).map fun (n, cursor) => (make n, cursor)
  let quoted (cursor : Cursor) : Except Fault (Token × Cursor) :=
    (takeQuoted c cursor).map fun (s, cursor) => (.scalar s false, cursor)
  if c = '%' ∧ atStart then
    let o ← o.leaveBlocks
    let (t, cursor) ← takeDirective cursor
    return { o.push t with cursor }
  else if atStart ∧ cursor.atMarker then
    let o ← o.leaveBlocks
    return o.indicator (if c = '-' then .documentStart else .documentEnd) 3 false
  else if c = '[' then o.openFlow .flowSequenceStart
  else if c = '\x7b' then o.openFlow .flowMappingStart
  else if c = ']' then o.closeFlow .flowSequenceEnd
  else if c = '\x7d' then o.closeFlow .flowMappingEnd
  else if c = ',' then return (← o.dropCandidate).indicator .flowEntry 1 true
  else if c = '-' ∧ spaced then o.blockMark .blockSequenceStart .blockEntry true
  else if c = '?' ∧ (o.inFlow ∨ spaced) then o.blockMark .blockMappingStart .key !o.inFlow
  else if c = ':' ∧ (o.inFlow ∨ spaced) then o.valueMark
  else if c = '*' then o.word (name .alias)
  else if c = '&' then o.word (name .anchor)
  else if c = '!' then o.word takeTag
  else if (c = '|' ∨ c = '>') ∧ !o.inFlow then
    let o ← o.dropCandidate
    let (text, cursor) ← takeBlockText (c = '>') o.indent cursor
    return { o.push (.scalar text false) with cursor, keyAllowed := true }
  else if c = '\x27' ∨ c = '\x22' then o.word quoted
  else if o.beginsPlain c then o.plain
  else refuse "found a character that cannot start any token"

/-- Takes tokens to the end of the text. -/
def run : Nat → Outline → Except Fault Outline
  | 0, o => .ok o
  | fuel + 1, o => do
    let o ← (skipBlanks (o.cursor.rest.length + 1) o).dropStale
    let o := o.closeBlocks o.cursor.column
    match o.cursor.peek with
    | none => (o.closeBlocks (-1)).dropCandidate
    | some c => run fuel (← o.step c)

end Outline

/-- The characters of which a text may consist. -/
def isAllowed (c : Char) : Bool :=
  let n := c.toNat
  n == 9 || n == 10 || n == 13 || (0x20 ≤ n && n ≤ 0x7e) || n == 0x85 ||
    (0xa0 ≤ n && n ≤ 0xfffd) || 0x10000 ≤ n

/-- The tokens of a text. A byte order mark at the start is skipped. -/
def tokens (text : String) : Except Fault (List Token) := do
  let cs := text.toList
  if !cs.all isAllowed then refuse "special characters are not allowed"
  let start : Cursor := { rest := cs }
  let start := if start.peek = some '\ufeff' then start.next else start
  let o ← Outline.run (cs.length + 1) { cursor := start }
  return o.tokens.toList

end Manuscript.Yaml
