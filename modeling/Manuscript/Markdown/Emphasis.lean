import Manuscript.Markdown.Token
import Manuscript.Text.Blank
import Manuscript.Text.Punctuation

/-!
# Emphasis

Runs of asterisks and underscores open and close emphasis. The pieces of a text are taken from left
to right; a run that may close is matched with the nearest run before it that may open it, and what
lies between becomes emphasised, strongly if both have two marks left. Runs that find no partner are
text (`emphasize`).
-/

namespace Manuscript.Markdown

/-- A run of emphasis marks. -/
structure Run where
  mark : Char
  length : Nat
  mayOpen : Bool
  mayClose : Bool
  deriving DecidableEq, Repr, Inhabited

/-- The run of marks between two characters; there are none at the ends of a text. A run that
    reaches into a word from the left may open, one from the right may close, and underscores do
    neither within a word. -/
def Run.between (mark : Char) (length : Nat) (before after : Option Char) : Run :=
  let blank (c : Option Char) : Bool := c.all Text.isBlank
  let punctuation (c : Option Char) : Bool := c.any Text.isPunctuation
  let left := !blank after && (!punctuation after || blank before || punctuation before)
  let right := !blank before && (!punctuation before || blank after || punctuation after)
  if mark = '_' then
    ⟨mark, length, left && (!right || punctuation before), right && (!left || punctuation after)⟩
  else ⟨mark, length, left, right⟩

/-- Whether two runs may be the ends of one emphasis. Where a run may both open and close, the
    lengths must not add up to a multiple of three, unless both are one. -/
def Run.matches (opener closer : Run) : Bool :=
  opener.mark == closer.mark &&
    !((opener.mayClose || closer.mayOpen) && (opener.length + closer.length) % 3 == 0 &&
      !(opener.length % 3 == 0 && closer.length % 3 == 0))

/-- A piece of a text that is being read. -/
inductive Piece
  | text (cs : List Char)
  /-- Characters that were written with backslashes. -/
  | escaped (cs : List Char)
  | token (t : Token)
  | run (r : Run)
  deriving Repr, Inhabited

/-- Joins neighbouring texts. Escaped characters are texts of their own unless `all` is set. -/
def joinPieces (all : Bool) : List Piece → List Piece
  | [] => []
  | p :: ps =>
    let p : Piece := match p with
      | .escaped cs => if all then .text cs else p
      | p => p
    match p, joinPieces all ps with
    | .text [], rest => rest
    | .text cs, .text ds :: rest => .text (cs ++ ds) :: rest
    | p, rest => p :: rest

/-- The token of a piece that is no run. -/
def Piece.token? : Piece → Option Token
  | .text cs | .escaped cs => some (.leaf .text (String.ofList cs))
  | .token t => some t
  | .run _ => none

/-- The tokens of pieces, given last one first, none of which is a run. -/
def tokensOf (all : Bool) (ps : List Piece) : List Token :=
  (joinPieces all ps.reverse).filterMap Piece.token?

/-- A run that may open emphasis: how many of its marks are left, and the pieces after it, the last
    one first. -/
structure Opener where
  run : Run
  left : Nat
  after : List Piece
  deriving Repr, Inhabited

/-- The marks of an opener and what follows it, as text, the last one first. -/
def Opener.asText (o : Opener) : List Piece :=
  o.after ++ [.text (List.replicate o.left o.run.mark)]

/-- What has been read: the pieces before the first opener, and the openers, both last one first. -/
structure Emphasis where
  base : List Piece := []
  openers : List Opener := []
  deriving Repr, Inhabited

namespace Emphasis

/-- Adds a piece at the end. -/
def push (e : Emphasis) (p : Piece) : Emphasis :=
  match e.openers with
  | [] => { e with base := p :: e.base }
  | o :: os => { e with openers := { o with after := p :: o.after } :: os }

/-- Splits the openers at the nearest one that a closing run matches: the ones after it, it, and the
    ones before. -/
def splitAt? (closer : Run) : List Opener → Option (List Opener × Opener × List Opener)
  | [] => none
  | o :: os =>
    if o.run.matches closer then some ([], o, os)
    else (splitAt? closer os).map fun (after, hit, before) => (o :: after, hit, before)

/-- Takes in a run that closes with `left` of its marks. The fuel is the number of marks. -/
def close (all : Bool) (r : Run) (fuel left : Nat) (e : Emphasis) : Emphasis :=
  let rest (e : Emphasis) : Emphasis :=
    if left = 0 then e
    else if r.mayOpen then { e with openers := ⟨r, left, []⟩ :: e.openers }
    else e.push (.text (List.replicate left r.mark))
  match fuel with
  | 0 => rest e
  | fuel + 1 =>
    if left = 0 then e
    else match splitAt? r e.openers with
      | none => rest e
      | some (after, o, before) =>
        let content := after.flatMap Opener.asText ++ o.after
        let strong := 2 ≤ o.left && 2 ≤ left
        let used := if strong then 2 else 1
        let kind := if strong then Token.Kind.strong else .emphasis
        let piece : Piece := .token (.branch kind (tokensOf all content))
        let e : Emphasis :=
          if o.left = used then { e with openers := before }.push piece
          else { e with openers := { o with left := o.left - used, after := [piece] } :: before }
        close all r fuel (left - used) e

/-- Takes in a piece. -/
def add (all : Bool) (e : Emphasis) : Piece → Emphasis
  | .run r =>
    if r.mayClose then e.close all r r.length r.length
    else if r.mayOpen then { e with openers := ⟨r, r.length, []⟩ :: e.openers }
    else e.push (.text (List.replicate r.length r.mark))
  | p => e.push p

/-- The pieces that have been read, with the marks that are left as text, the last one first. -/
def pieces (e : Emphasis) : List Piece :=
  e.openers.flatMap Opener.asText ++ e.base

end Emphasis

/-- Whether a piece is a run that may open or close emphasis. -/
def Piece.isActive : Piece → Bool
  | .run r => r.mayOpen || r.mayClose
  | _ => false

/-- The tokens of pieces, given last one first. -/
def emphasize (ps : List Piece) : List Token :=
  let ps := ps.reverse
  let all := ps.any Piece.isActive
  tokensOf all (ps.foldl (fun e p => e.add all p) ({} : Emphasis)).pieces

end Manuscript.Markdown
