import Manuscript.Text.Blank
import Manuscript.Text.Hex
import Manuscript.Xml

/-!
# Pieces of markup

Markup is a sequence of pieces: the start and the finish of elements, and text between them.
Comments and instructions to programs are passed over, and so is the declaration of the kind of
document. Names are kept as they are written here; which space they belong to is known once the
pieces are nested.
-/

namespace Manuscript.Xml

/-- A piece of markup. -/
inductive Piece
  /-- An element starts, and is finished at once if `closed`. -/
  | start (name : String) (attributes : List (String × String)) (closed : Bool)
  | finish (name : String)
  /-- Text, which is nothing but blanks in the markup itself if `blank`. -/
  | text (s : String) (blank : Bool)
  deriving Repr, Inhabited

namespace Piece

/-- The characters that separate names and values. -/
def isSpace (c : Char) : Bool :=
  c == ' ' || c == '\t' || c == '\n' || c == '\r'

/-- The ranges of the characters beyond the ASCII ones that a name may start with. -/
def nameRanges : List (Nat × Nat) :=
  [(0xC0, 0xD6), (0xD8, 0xF6), (0xF8, 0x2FF), (0x370, 0x37D), (0x37F, 0x1FFF), (0x200C, 0x200D),
    (0x2070, 0x218F), (0x2C00, 0x2FEF), (0x3001, 0xD7FF), (0xF900, 0xFDCF), (0xFDF0, 0xFFFD),
    (0x10000, 0xEFFFF)]

/-- Whether a name may start with a character. -/
def startsName (c : Char) : Bool :=
  c.isAlpha || c == '_' || c == ':' || nameRanges.any fun r => r.1 ≤ c.toNat && c.toNat ≤ r.2

/-- Whether a name may go on with a character. -/
def continuesName (c : Char) : Bool :=
  let n := c.toNat
  startsName c || c.isDigit || c == '-' || c == '.' || n == 0xB7 || (0x300 ≤ n && n ≤ 0x36F) ||
    (0x203F ≤ n && n ≤ 0x2040)

/-- Reads a name. -/
def name? (cs : List Char) : Option (String × List Char) :=
  match cs with
  | c :: _ =>
    if startsName c then some (.ofList (cs.takeWhile continuesName), cs.dropWhile continuesName)
    else none
  | [] => none

/-- The rest of a text after one that it starts with. -/
def after? (s : String) (cs : List Char) : Option (List Char) :=
  if s.toList.isPrefixOf cs then some (cs.drop s.length) else none

/-- Splits a text at the first place of another one, which is left out; `before` are the characters
    passed so far, the last one first. -/
def splitFrom? (s before : List Char) : List Char → Option (List Char × List Char)
  | [] => none
  | c :: cs =>
    if s.isPrefixOf (c :: cs) then some (before.reverse, (c :: cs).drop s.length)
    else splitFrom? s (c :: before) cs

/-- Splits a text at the first place of another one, which is left out. -/
def splitAt? (s : String) (cs : List Char) : Option (List Char × List Char) :=
  splitFrom? s.toList [] cs

/-- The character that the inside of a reference stands for. -/
def reference? (cs : List Char) : Option Char :=
  let numbered (n : Option Nat) : Option Char :=
    n.bind fun n => if h : n.isValidChar then
      if isAllowed (.ofNatAux n h) then some (.ofNatAux n h) else none else none
  match cs with
  | '#' :: 'x' :: ds => if ds.isEmpty then none else numbered (Text.ofHex? ds)
  | '#' :: ds => if ds.isEmpty then none else numbered (Text.ofRadix? 10 ds)
  | _ =>
    match String.ofList cs with
    | "lt" => some '<'
    | "gt" => some '>'
    | "amp" => some '&'
    | "quot" => some '\x22'
    | "apos" => some '\x27'
    | _ => none

/-- Resolves the references of a text, in which a character that stands for itself becomes another
    one; `done` are the characters so far, the last one first. -/
def resolveFrom? (f : Char → Char) (done : List Char) : Nat → List Char → Option (List Char)
  | 0, _ => none
  | _ + 1, [] => some done.reverse
  | fuel + 1, '&' :: cs => do
    let inside := cs.takeWhile (· != ';')
    let c ← reference? inside
    resolveFrom? f (c :: done) fuel (cs.drop (inside.length + 1))
  | fuel + 1, c :: cs =>
    if isAllowed c then resolveFrom? f (f c :: done) fuel cs else none

/-- Resolves the references of a text, in which a character that stands for itself becomes another
    one. -/
def resolve? (f : Char → Char) (cs : List Char) : Option String :=
  (resolveFrom? f [] (cs.length + 1) cs).map .ofList

/-- The value of an attribute as it is written: blanks become spaces. -/
def value? (cs : List Char) : Option String :=
  if cs.contains '<' then none else resolve? (fun c => if isSpace c then ' ' else c) cs

/-- Reads attributes and the end of the piece that starts an element. -/
def attributes? : Nat → List Char → Option (List (String × String) × Bool × List Char)
  | 0, _ => none
  | fuel + 1, cs =>
    match cs.dropWhile isSpace with
    | '>' :: rest => some ([], false, rest)
    | '/' :: '>' :: rest => some ([], true, rest)
    | rest => do
      if !(cs.head?.any isSpace) then none
      let (name, rest) ← name? rest
      match (rest.dropWhile isSpace) with
      | '=' :: rest =>
        match rest.dropWhile isSpace with
        | q :: rest =>
          if q ≠ '\x22' ∧ q ≠ '\x27' then none
          let (inside, rest) ← splitAt? q.toString rest
          let value ← value? inside
          let (more, closed, rest) ← attributes? fuel rest
          if more.any (·.1 == name) then none
          return ((name, value) :: more, closed, rest)
        | [] => none
      | _ => none

/-- Passes over the declaration of the kind of document, which may hold others between brackets. -/
def skipKind? (inside : Bool) : List Char → Option (List Char)
  | [] => none
  | c :: cs =>
    if c = '>' ∧ !inside then some cs
    else skipKind? (if c = '[' then true else if c = ']' then false else inside) cs

/-- Reads text up to the next piece. -/
def text? (cs : List Char) : Option (Piece × List Char) := do
  let here := cs.takeWhile (· != '<')
  if (splitAt? "]]>" here).isSome then none
  return (.text (← resolve? id here) (here.all isSpace), cs.dropWhile (· != '<'))

/-- Reads pieces; `done` are those so far, the last one first. The declaration of the markup itself
    may stand only at its start. -/
def readFrom? (atStart : Bool) (done : List Piece) : Nat → List Char → Option (List Piece)
  | 0, _ => none
  | _, [] => some done.reverse
  | fuel + 1, cs =>
    match cs with
    | '<' :: '?' :: rest => do
      let (target, _) ← name? rest
      if target.toLower = "xml" ∧ !(atStart ∧ target = "xml") then none
      let (_, rest) ← splitAt? "?>" rest
      readFrom? false done fuel rest
    | '<' :: '!' :: rest =>
      match after? "--" rest with
      | some rest => do
        let (_, rest) ← splitAt? "--" rest
        readFrom? false done fuel (← after? ">" rest)
      | none =>
        match after? "[CDATA[" rest with
        | some rest => do
          let (inside, rest) ← splitAt? "]]>" rest
          if !inside.all isAllowed then none
          readFrom? false (.text (.ofList inside) false :: done) fuel rest
        | none => do
          readFrom? false done fuel (← skipKind? false (← after? "DOCTYPE" rest))
    | '<' :: '/' :: rest => do
      let (name, rest) ← name? rest
      let rest ← after? ">" (rest.dropWhile isSpace)
      readFrom? false (.finish name :: done) fuel rest
    | '<' :: rest => do
      let (name, rest) ← name? rest
      let (attributes, closed, rest) ← attributes? (rest.length + 1) rest
      readFrom? false (.start name attributes closed :: done) fuel rest
    | _ => do
      let (piece, rest) ← text? cs
      readFrom? false (piece :: done) fuel rest

/-- The pieces of markup. -/
def read? (cs : List Char) : Option (List Piece) :=
  readFrom? true [] (cs.length + 1) cs

end Piece

end Manuscript.Xml
