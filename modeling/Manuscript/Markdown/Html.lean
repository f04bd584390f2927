import Manuscript.Markdown.Line

/-!
# Raw HTML

The grammar of HTML tags, comments and the like within Markdown (`Html.element?`), and the seven
ways in which a block of raw HTML opens and ends (`Html.opening?`).
-/

namespace Manuscript.Markdown.Html

/-- Whether a character is a blank between the parts of a tag. -/
def isGap (c : Char) : Bool :=
  c = ' ' || c = '\t' || c = '\n' || c = '\r' || c = '\x0c' || c = '\x0b'

/-- Whether a character may begin the name of a tag. -/
def isNameStart (c : Char) : Bool :=
  c.isAlpha

/-- Whether a character may stand in the name of a tag. -/
def isNameChar (c : Char) : Bool :=
  c.isAlphanum || c = '-'

/-- What follows the name of a tag. -/
def afterName? : List Char → Option (List Char)
  | c :: cs => if isNameStart c then some (cs.dropWhile isNameChar) else none
  | [] => none

/-- What follows the first occurrence of `mark`. -/
def after? (mark : List Char) : List Char → Option (List Char)
  | [] => if mark.isEmpty then some [] else none
  | c :: cs =>
    if mark.isPrefixOf (c :: cs) then some ((c :: cs).drop mark.length) else after? mark cs

/-- What follows the value of an attribute. -/
def afterValue? : List Char → Option (List Char)
  | '\x22' :: cs => after? ['\x22'] cs
  | '\x27' :: cs => after? ['\x27'] cs
  | cs =>
    let value := cs.takeWhile fun c => !isGap c && !("\"'=<>`".toList.contains c)
    if value.isEmpty then none else some (cs.drop value.length)

/-- What follows the name and value of an attribute. -/
def afterAttribute? : List Char → Option (List Char)
  | c :: cs =>
    if c.isAlpha || c = '_' || c = ':' then
      let rest := cs.dropWhile fun c => c.isAlphanum || "_.:-".toList.contains c
      match rest.dropWhile isGap with
      | '=' :: value => afterValue? (value.dropWhile isGap)
      | _ => some rest
    else none
  | [] => none

/-- What follows the attributes and the end of an opening tag. -/
def afterAttributes? (fuel : Nat) (cs : List Char) : Option (List Char) :=
  let rest := cs.dropWhile isGap
  match fuel, rest with
  | _, '>' :: after => some after
  | _, '/' :: '>' :: after => some after
  | 0, _ => none
  | fuel + 1, _ =>
    if rest.length < cs.length then (afterAttribute? rest).bind (afterAttributes? fuel) else none

/-- What follows an opening tag, given what follows its angle bracket. -/
def afterOpenTag? (cs : List Char) : Option (List Char) :=
  (afterName? cs).bind fun rest => afterAttributes? rest.length rest

/-- What follows a closing tag, given what follows its angle bracket and slash. -/
def afterCloseTag? (cs : List Char) : Option (List Char) :=
  (afterName? cs).bind fun rest =>
    match rest.dropWhile isGap with
    | '>' :: after => some after
    | _ => none

/-- What follows a comment, given what follows its opening. The two shortest comments end where they
    begin. -/
def afterComment? (cs : List Char) : Option (List Char) :=
  match cs with
  | '>' :: after => some after
  | '-' :: '>' :: after => some after
  | _ => after? "-->".toList cs

/-- What follows a tag, comment, instruction, declaration or character data that begins a text. -/
def element? (cs : List Char) : Option (List Char) :=
  match cs with
  | '<' :: '!' :: '-' :: '-' :: rest => afterComment? rest
  | '<' :: '?' :: rest => after? "?>".toList rest
  | '<' :: '!' :: rest =>
    if "[CDATA[".toList.isPrefixOf rest then after? "]]>".toList (rest.drop 7)
    else match rest with
      | c :: _ => if c.isAlpha then after? ['>'] rest else none
      | [] => none
  | '<' :: '/' :: rest => afterCloseTag? rest
  | '<' :: rest => afterOpenTag? rest
  | _ => none

/-! ## Blocks -/

/-- Where a block of raw HTML ends. -/
inductive Ending
  /-- With the line that holds one of the texts, whatever the case of its letters. -/
  | atText (texts : List (List Char))
  /-- Before a blank line. -/
  | atBlank
  deriving DecidableEq, Repr, Inhabited

/-- The elements whose content is not marked up. -/
def verbatimNames : List String :=
  ["pre", "script", "style", "textarea"]

/-- The elements that make a block of their own. -/
def blockNames : List String := [
  "address", "article", "aside", "base", "basefont", "blockquote", "body", "caption", "center",
  "col", "colgroup", "dd", "details", "dialog", "dir", "div", "dl", "dt", "fieldset", "figcaption",
  "figure", "footer", "form", "frame", "frameset", "h1", "h2", "h3", "h4", "h5", "h6", "head",
  "header", "hr", "html", "iframe", "legend", "li", "link", "main", "menu", "menuitem", "nav",
  "noframes", "ol", "optgroup", "option", "p", "param", "search", "section", "summary", "table",
  "tbody", "td", "tfoot", "th", "thead", "title", "tr", "track", "ul"]

/-- The name that a tag begins with, in small letters, and what follows it. -/
def tagName (cs : List Char) : String × List Char :=
  let name := cs.takeWhile isNameChar
  (String.ofList (name.map Char.toLower), cs.drop name.length)

/-- Whether a tag of a block may end or go on here. -/
def endsName (cs : List Char) : Bool :=
  match cs with
  | [] => true
  | '/' :: '>' :: _ => true
  | c :: _ => c = ' ' || c = '\t' || c = '>'

/-- The ending of the block of raw HTML that a line opens, if it may open in place of a
    paragraph. -/
def strongOpening? (body : List Char) : Option Ending :=
  match body with
  | '<' :: '!' :: '-' :: '-' :: _ => some (.atText ["-->".toList])
  | '<' :: '?' :: _ => some (.atText ["?>".toList])
  | '<' :: '!' :: rest =>
    if "[CDATA[".toList.isPrefixOf rest then some (.atText ["]]>".toList])
    else if rest.head?.any Char.isAlpha then some (.atText [['>']])
    else none
  | '<' :: '/' :: rest =>
    let (name, after) := tagName rest
    if blockNames.contains name && endsName after then some .atBlank else none
  | '<' :: rest =>
    let (name, after) := tagName rest
    if verbatimNames.contains name && after.head?.all (fun c => c = ' ' || c = '\t' || c = '>') then
      some (.atText (verbatimNames.map fun n => ("</" ++ n ++ ">").toList))
    else if blockNames.contains name && endsName after then some .atBlank
    else none
  | _ => none

/-- Whether a text is one complete tag with nothing but blanks after it. -/
def isLoneTag (body : List Char) : Bool :=
  let after : Option (List Char) := match body with
    | '<' :: '/' :: rest => afterCloseTag? rest
    | '<' :: rest => afterOpenTag? rest
    | _ => none
  after.any fun rest => rest.all Line.isBlankChar

/-- The ending of the block of raw HTML that a line opens. One that is opened by any other complete
    tag may not take the place of a paragraph. -/
def opening? (interrupting : Bool) (l : Line) : Option Ending :=
  if !l.isFlush then none
  else match strongOpening? l.body with
    | some e => some e
    | none => if !interrupting && isLoneTag l.body then some .atBlank else none

/-- Whether a text occurs in another, which is given in small letters. -/
def occurs (text : List Char) (cs : List Char) : Bool :=
  (after? text cs).isSome

/-- Whether a line is the last one of a block of raw HTML. -/
def Ending.isMetBy (e : Ending) (l : Line) : Bool :=
  match e with
  | .atText texts => texts.any fun t => occurs t (l.text.map Char.toLower)
  | .atBlank => false

end Manuscript.Markdown.Html
