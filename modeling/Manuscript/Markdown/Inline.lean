import Manuscript.Markdown.Address
import Manuscript.Markdown.Emphasis
import Manuscript.Markdown.Html
import Manuscript.Text.Caseless

/-!
# The inlines of a text

The text of a paragraph is read from left to right. Code spans, addresses in angle brackets, raw
HTML and underlined text are taken where they begin; square brackets are kept open until their
closing one decides whether they are a link; and the runs of emphasis marks that remain are matched
in the end.
-/

namespace Manuscript.Markdown

open Line (isBlankChar)

/-- What labels lead to, by their caseless forms. -/
abbrev Definitions := List (List Char × Target)

/-- What a label leads to. -/
def Definitions.find? (ds : Definitions) (label : List Char) : Option Target :=
  let key := Text.caseless label
  if key.isEmpty then none else (List.find? (fun d => d.1 == key) ds).map (·.2)

/-- What the reading of a text depends on. -/
structure Reading where
  definitions : Definitions := []
  /-- Whether doubled carets underline. -/
  underline : Bool := true
  deriving Repr, Inhabited

/-! ## Parts that are taken as a whole -/

/-- Splits a text before the first run of exactly `n` backticks: what is before, and what is
    after. -/
def splitAtBackticks (n run : Nat) (before : List Char) : List Char → Option (List Char × List Char)
  | [] => if run = n then some (before.drop n, []) else none
  | '`' :: cs => splitAtBackticks n (run + 1) ('`' :: before) cs
  | c :: cs =>
    if run = n then some (before.drop n, c :: cs) else splitAtBackticks n 0 (c :: before) cs

/-- The text of a code span: line ends are spaces, and a space at both ends is taken off unless
    there is nothing else. -/
def codeText (cs : List Char) : List Char :=
  let cs := cs.map fun c => if c = '\n' then ' ' else c
  if cs.head? = some ' ' && cs.getLast? = some ' ' && cs.any (fun c => c ≠ ' ') then
    (cs.drop 1).dropLast
  else cs

/-- Reads a code span after its opening backticks, of which there are `n`. -/
def readCode (n : Nat) (cs : List Char) : Option (Token × List Char) :=
  (splitAtBackticks n 0 [] cs).map fun (before, after) =>
    (.leaf .codeSpan (String.ofList (codeText before.reverse)), after)

/-- A link whose label is where it leads. -/
def selfLink (url text : List Char) : Token :=
  .branch .link [.leaf .text (String.ofList text)] { url := String.ofList (address url) }

/-- Whether a text is an address with its scheme. -/
def isAbsoluteAddress (cs : List Char) : Bool :=
  let scheme := cs.takeWhile fun c => c.isAlphanum || "+.-".toList.contains c
  cs.head?.any Char.isAlpha && 2 ≤ scheme.length && scheme.length ≤ 32 &&
    (cs.drop scheme.length).head? = some ':' &&
    cs.all fun c => 0x20 < c.toNat && c ≠ '<' && c ≠ '>'

/-- Whether a text is a part of the name of a host. -/
def isHostLabel (cs : List Char) : Bool :=
  !cs.isEmpty && cs.length ≤ 63 && cs.all (fun c => c.isAlphanum || c = '-') &&
    cs.head? != some '-' && cs.getLast? != some '-'

/-- Whether a text is the address of a mailbox. -/
def isMailAddress (cs : List Char) : Bool :=
  let name := cs.takeWhile fun c => c ≠ '@'
  let host := cs.drop (name.length + 1)
  !name.isEmpty && name.length < cs.length &&
    name.all (fun c => c.isAlphanum || ".!#$%&'*+/=?^_`\x7b|\x7d~-".toList.contains c) &&
    (host.splitOn '.').all isHostLabel

/-- Reads what begins with an angle bracket, given what follows it: an address or raw HTML. -/
def readAngle (cs : List Char) : Option (Token × List Char) :=
  let inner := cs.takeWhile fun c => c ≠ '>'
  let after := cs.drop (inner.length + 1)
  let closed := inner.length < cs.length
  if closed && isAbsoluteAddress inner then some (selfLink inner inner, after)
  else if closed && isMailAddress inner then
    some (selfLink ("mailto:".toList ++ inner) inner, after)
  else (Html.element? ('<' :: cs)).map fun rest =>
    (.leaf .inlineHtml (String.ofList (('<' :: cs).take (cs.length + 1 - rest.length))), rest)

/-- Whether backslashes, in pairs, escape the caret that follows them, given what is before the
    caret in reverse. -/
def oddBackslashes (before : List Char) : Bool :=
  (before.takeWhile fun c => c = '\\').length % 2 == 1

/-- Splits a text at the doubled caret that ends underlined text: one that follows a character that
    is neither blank nor a caret, or an escaped caret, and that no single caret follows. `before` is
    what has been passed, in reverse. -/
def splitAtCarets (before : List Char) : List Char → Option (List Char × List Char)
  | '^' :: '^' :: cs =>
    let ends : Bool := match before with
      | [] => false
      | '^' :: rest => oddBackslashes rest
      | c :: _ => !Text.isBlank c
    let single : Bool := cs.head? == some '^' && (cs.drop 1).head? != some '^'
    if ends && !single then some (before, cs)
    else splitAtCarets ('^' :: before) ('^' :: cs)
  | c :: cs => splitAtCarets (c :: before) cs
  | [] => none

/-- Reads underlined text after its opening carets: the text, and what follows. -/
def readUnderlined (cs : List Char) : Option (List Char × List Char) :=
  match cs with
  | c :: _ =>
    if Text.isBlank c || c = '^' then none
    else (splitAtCarets [] cs).map fun (before, after) => (before.reverse, after)
  | [] => none

/-- What follows the bracket that closes the one a text stands in, which lies `depth` brackets
    deep. -/
def afterBracket (depth : Nat) : List Char → Option (List Char)
  | [] => none
  | '\\' :: _ :: cs => afterBracket depth cs
  | '[' :: cs => afterBracket (depth + 1) cs
  | ']' :: cs =>
    match depth with
    | 0 => some cs
    | depth + 1 => afterBracket depth cs
  | _ :: cs => afterBracket depth cs

/-- The characters of escapes at the beginning of a text, and what follows them. -/
def readEscapes : List Char → List Char × List Char
  | '\\' :: c :: cs =>
    if Text.isAsciiPunctuation c then
      let (escapes, rest) := readEscapes cs
      (c :: escapes, rest)
    else ([], '\\' :: c :: cs)
  | cs => ([], cs)

/-! ## Brackets -/

/-- An open bracket: whether it opens a picture, whether it may still open a link, what follows it
    in the text, and the pieces after it, the last one first. -/
structure Bracket where
  image : Bool
  active : Bool := true
  source : List Char
  after : List Piece := []
  deriving Repr, Inhabited

/-- What has been read: the pieces before the first open bracket, and the brackets, both last one
    first. -/
structure State where
  base : List Piece := []
  brackets : List Bracket := []
  deriving Repr, Inhabited

namespace State

/-- Adds a piece at the end. Single characters are joined to the text before them. -/
def push (s : State) (p : Piece) : State :=
  let join : List Piece → List Piece
    | .text ds :: rest => match p with
      | .text cs => .text (ds ++ cs) :: rest
      | p => p :: .text ds :: rest
    | ps => p :: ps
  match s.brackets with
  | [] => { s with base := join s.base }
  | b :: bs => { s with brackets := { b with after := join b.after } :: bs }

/-- Adds text at the end. -/
def pushText (s : State) (cs : List Char) : State :=
  s.push (.text cs)

/-- Makes the innermost bracket text, with `close` after it. -/
def dropBracket (s : State) (b : Bracket) (bs : List Bracket) (close : List Char) : State :=
  let mark : Piece := .text (if b.image then ['!', '['] else ['['])
  let pieces := .text close :: b.after ++ [mark]
  match bs with
  | [] => { base := pieces ++ s.base, brackets := [] }
  | o :: os => { s with brackets := { o with after := pieces ++ o.after } :: os }

/-- Makes the innermost bracket a link or a picture. Within the label of a link there is no
    other. -/
def closeBracket (s : State) (b : Bracket) (bs : List Bracket) (target : Target) : State :=
  let attributes : Token.Attributes :=
    { url := String.ofList target.url, title := target.title.map String.ofList }
  let token : Token := .branch (if b.image then .image else .link) (emphasize b.after) attributes
  let shut (o : Bracket) : Bracket := if o.image then o else { o with active := false }
  let bs := if b.image then bs else bs.map shut
  { s with brackets := bs }.push (.token token)

/-- Takes off the spaces at the end of the text read last: whether there were two or more. -/
def trimSpaces (s : State) : State × Bool :=
  let trim : List Piece → List Piece × Bool
    | .text cs :: rest =>
      let spaces := (cs.reverse.takeWhile fun c => c = ' ').length
      (.text (cs.take (cs.length - spaces)) :: rest, 2 ≤ spaces)
    | ps => (ps, false)
  match s.brackets with
  | [] => let (base, hard) := trim s.base; ({ s with base }, hard)
  | b :: bs =>
    let (after, hard) := trim b.after
    ({ s with brackets := { b with after } :: bs }, hard)

/-- All pieces, with the brackets that are still open as text, the last one first. -/
def pieces (s : State) : List Piece :=
  let mark (b : Bracket) : Piece := .text (if b.image then ['!', '['] else ['['])
  s.brackets.flatMap (fun b => b.after ++ [mark b]) ++ s.base

end State

/-- Where a closing bracket leads, given the text between the brackets and what follows: by what
    stands in round brackets, or by a label in square brackets or between the brackets
    themselves. -/
def Reading.target? (r : Reading) (label after : List Char) : Option (Target × List Char) :=
  let byLabel (label rest : List Char) : Option (Target × List Char) :=
    match readLabel (label ++ [']']) with
    | some (_, []) => (r.definitions.find? label).map fun t => (t, rest)
    | _ => none
  let reference : Option (Target × List Char) :=
    match after with
    | '[' :: inner =>
      match readLabel inner with
      | some ([], rest) => byLabel label rest
      | some (other, rest) => byLabel other rest
      | none => byLabel label after
    | _ => byLabel label after
  match after with
  | '(' :: inner =>
    match readTarget inner with
    | some found => some found
    | none => reference
  | _ => reference

/-- Whether the innermost open bracket is going to be a link that ends before `rest`. -/
def Reading.endsLink (r : Reading) (s : State) (cs rest : List Char) : Bool :=
  match s.brackets, afterBracket 0 cs with
  | b :: _, some after =>
    let label := b.source.take (b.source.length - after.length - 1)
    rest.length < after.length && (b.active || b.image) && (r.target? label after).isSome
  | _, _ => false

/-! ## Reading -/

/-- The blanks at the beginning of a line are none of the text. -/
def dropIndent (cs : List Char) : List Char :=
  cs.dropWhile isBlankChar

/-- Whether a character may be the first of anything but text. -/
def isSpecial (c : Char) : Bool :=
  "\\`<*_![]\n^".toList.contains c

/-- Reads a text of at most `fuel` characters, given what has been read and the character before. -/
def Reading.scan (r : Reading) (fuel : Nat) (s : State) (before : Option Char) (cs : List Char) :
    State :=
  match fuel, cs with
  | 0, _ => s
  | _, [] => s
  | fuel + 1, c :: rest =>
    let literal (_ : Unit) : State := r.scan fuel (s.pushText [c]) (some c) rest
    match c with
    | '\\' =>
      match rest with
      | '\n' :: after =>
        r.scan fuel (s.push (.token (.leaf .lineBreak ""))) (some '\n') (dropIndent after)
      | _ =>
        match readEscapes cs with
        | ([], _) => literal ()
        | (escapes, after) => r.scan fuel (s.push (.escaped escapes)) escapes.getLast? after
    | '`' =>
      let run := cs.takeWhile fun c => c = '`'
      let after := cs.drop run.length
      match readCode run.length after with
      | some (t, after) => r.scan fuel (s.push (.token t)) (some '`') after
      | none => r.scan fuel (s.pushText run) (some '`') after
    | '<' =>
      match readAngle rest with
      | some (t, after) => r.scan fuel (s.push (.token t)) (some '>') after
      | none => literal ()
    | '*' | '_' =>
      let run := cs.takeWhile fun d => d = c
      let after := cs.drop run.length
      r.scan fuel (s.push (.run (.between c run.length before after.head?))) (some c) after
    | '!' =>
      match rest with
      | '[' :: after =>
        let opened : Bracket := { image := true, source := after }
        r.scan fuel { s with brackets := opened :: s.brackets } (some '[') after
      | _ => literal ()
    | '[' =>
      r.scan fuel { s with brackets := { image := false, source := rest } :: s.brackets } (some '[')
        rest
    | ']' =>
      match s.brackets with
      | [] => literal ()
      | b :: bs =>
        let label := b.source.take (b.source.length - rest.length - 1)
        match if b.active then r.target? label rest else none with
        | some (target, after) => r.scan fuel (s.closeBracket b bs target) (some ')') after
        | none => r.scan fuel (s.dropBracket b bs [']']) (some ']') rest
    | '\n' =>
      let (s, hard) := s.trimSpaces
      let kind := if hard then Token.Kind.lineBreak else .softBreak
      r.scan fuel (s.push (.token (.leaf kind ""))) (some '\n') (dropIndent rest)
    | '^' =>
      match rest with
      | '^' :: inner =>
        match if r.underline then readUnderlined inner else none with
        | some (text, after) =>
          if r.endsLink s inner after then literal ()
          else
            let content := emphasize (r.scan fuel {} none text).pieces
            r.scan fuel (s.push (.token (.branch .insert content))) (some '^') after
        | none => literal ()
      | _ => literal ()
    | _ =>
      let plain := cs.takeWhile fun c => !isSpecial c
      if plain.isEmpty then literal ()
      else r.scan fuel (s.pushText plain) plain.getLast? (cs.drop plain.length)

/-- The tokens of a text. -/
def Reading.tokens (r : Reading) (cs : List Char) : List Token :=
  emphasize (r.scan cs.length {} none cs).pieces

end Manuscript.Markdown
