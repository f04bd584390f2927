import Manuscript.Error.Fault

/-!
# Places in a YAML text

A cursor is a place in a text: what follows it, and how far it is from the start of the text and of
its line. Columns decide what belongs to what, so every step forward keeps count of them
(`Cursor.next`).
-/

namespace Manuscript.Yaml

/-- Refuses a text. -/
def refuse (why : String) : Except Fault α :=
  .error (.malformed why)

/-- The characters that end a line. -/
def isBreak (c : Char) : Bool :=
  c == '\n' || c == '\r' || c == '\u0085' || c == '\u2028' || c == '\u2029'

/-- Whether a line is over where a character follows, or nothing. -/
def endsLine (c : Option Char) : Bool :=
  c.all isBreak

/-- Whether a word is over where a character follows, or nothing. -/
def endsWord (c : Option Char) : Bool :=
  c.all fun c => c == ' ' || c == '\t' || isBreak c

/-- A place in a text. -/
structure Cursor where
  rest : List Char
  index : Nat := 0
  line : Nat := 0
  column : Nat := 0
  deriving Repr, Inhabited

namespace Cursor

/-- The character that follows, or the one some places after it. -/
def peek (c : Cursor) (ahead : Nat := 0) : Option Char :=
  c.rest[ahead]?

/-- One character further. A byte order mark takes no column. -/
def next (c : Cursor) : Cursor :=
  match c.rest with
  | [] => c
  | x :: rest =>
    let ends := isBreak x && !(x == '\r' && rest.head? == some '\n')
    { rest
      index := c.index + 1
      line := if ends then c.line + 1 else c.line
      column := if ends then 0 else if x = '\ufeff' then c.column else c.column + 1 }

/-- Some characters further. -/
def advance (c : Cursor) : Nat → Cursor
  | 0 => c
  | n + 1 => c.next.advance n

/-- After the characters that `p` holds of. -/
def skip (c : Cursor) (p : Char → Bool) : Cursor :=
  c.advance (c.rest.takeWhile p).length

/-- After the blanks. -/
def skipSpaces (c : Cursor) : Cursor :=
  c.skip (· == ' ')

/-- Takes the characters that `p` holds of. -/
def span (c : Cursor) (p : Char → Bool) : List Char × Cursor :=
  (c.rest.takeWhile p, c.skip p)

/-- Takes the end of a line, if there is one. The separators of Unicode stand for themselves, and
    all other endings are read as a line feed. -/
def lineBreak (c : Cursor) : List Char × Cursor :=
  match c.rest with
  | '\r' :: '\n' :: _ => (['\n'], c.next.next)
  | x :: _ =>
    if x = '\u2028' ∨ x = '\u2029' then ([x], c.next)
    else if isBreak x then (['\n'], c.next)
    else ([], c)
  | [] => ([], c)

/-- Whether a document begins or ends here: three dashes or dots that stand alone. -/
def atMarker (c : Cursor) : Bool :=
  match c.rest with
  | '-' :: '-' :: '-' :: rest | '.' :: '.' :: '.' :: rest => endsWord rest.head?
  | _ => false

/-- After the comment, if there is one. -/
def skipComment (c : Cursor) : Cursor :=
  if c.peek = some '#' then c.skip fun x => !isBreak x else c

/-- After the rest of a line on which only blanks and a comment may follow. -/
def skipLine (c : Cursor) : Except Fault Cursor :=
  let c := c.skipSpaces.skipComment
  if endsLine c.peek then .ok c.lineBreak.2 else refuse "expected a comment or the end of the line"

end Cursor

end Manuscript.Yaml
