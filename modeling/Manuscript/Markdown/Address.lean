import Manuscript.Markdown.Block
import Manuscript.Text.Entity
import Manuscript.Text.Percent
import Manuscript.Text.Punctuation

/-!
# Addresses and labels

Where a link leads: an address, in angle brackets or without, and a title in quotes or brackets. A
backslash before punctuation makes it lose its meaning. Addresses are decoded and then
percent-encoded; titles are not.
-/

namespace Manuscript.Markdown

open Text (isAsciiPunctuation)

/-- Whether a character is a blank between the parts of a link. -/
def isSpacing (c : Char) : Bool :=
  c = ' ' || c = '\t' || c = '\n'

/-- The text with each backslash before punctuation taken away. -/
def unescape : List Char → List Char
  | '\\' :: c :: cs => if isAsciiPunctuation c then c :: unescape cs else '\\' :: unescape (c :: cs)
  | c :: cs => c :: unescape cs
  | [] => []

/-- The address that a text stands for. -/
def address (cs : List Char) : List Char :=
  Text.percentEncode (Text.Entity.decode cs)

/-- Reads up to an unescaped `close` that is not preceded by an unescaped one of `barred`: what was
    read, and what follows. -/
def readUntil (close : Char) (barred : List Char) : List Char → Option (List Char × List Char)
  | [] => none
  | '\\' :: d :: cs =>
    if isAsciiPunctuation d then (readUntil close barred cs).map fun (t, r) => ('\\' :: d :: t, r)
    else (readUntil close barred (d :: cs)).map fun (t, r) => ('\\' :: t, r)
  | c :: cs =>
    if c = close then some ([], cs)
    else if barred.contains c then none
    else (readUntil close barred cs).map fun (t, r) => (c :: t, r)

/-- Reads an address without angle brackets, within `depth` round brackets of its own. -/
def readBareAddress (depth : Nat) : List Char → Option (List Char × List Char)
  | [] => if depth = 0 then some ([], []) else none
  | '\\' :: d :: cs =>
    if isAsciiPunctuation d then (readBareAddress depth cs).map fun (t, r) => ('\\' :: d :: t, r)
    else (readBareAddress depth (d :: cs)).map fun (t, r) => ('\\' :: t, r)
  | '(' :: cs => (readBareAddress (depth + 1) cs).map fun (t, r) => ('(' :: t, r)
  | ')' :: cs =>
    match depth with
    | 0 => some ([], ')' :: cs)
    | depth + 1 => (readBareAddress depth cs).map fun (t, r) => (')' :: t, r)
  | c :: cs =>
    if isSpacing c || (c.toNat < 0x20 && c ≠ '\x00') || c.toNat = 0x7f then
      if depth = 0 then some ([], c :: cs) else none
    else (readBareAddress depth cs).map fun (t, r) => (c :: t, r)

/-- Reads an address: the address, and what follows. -/
def readAddress (cs : List Char) : Option (List Char × List Char) :=
  let read := match cs with
    | '<' :: rest => readUntil '>' ['<', '\n'] rest
    | _ => readBareAddress 0 cs
  read.map fun (t, r) => (address (unescape t), r)

/-- Reads a title: the title, and what follows. -/
def readTitle (cs : List Char) : Option (List Char × List Char) :=
  let read := match cs with
    | '\x22' :: rest => readUntil '\x22' [] rest
    | '\x27' :: rest => readUntil '\x27' [] rest
    | '(' :: rest => readUntil ')' ['('] rest
    | _ => none
  read.map fun (t, r) => (unescape t, r)

/-- Reads what follows the label of a link and its round bracket: where it leads, and what
    follows. -/
def readTarget (cs : List Char) : Option (Target × List Char) :=
  let start := cs.dropWhile isSpacing
  (readAddress start).bind fun (url, rest) =>
    let gap := rest.dropWhile isSpacing
    match gap with
    | ')' :: after => some ({ url }, after)
    | _ =>
      if gap.length < rest.length then
        (readTitle gap).bind fun (title, rest) =>
          match rest.dropWhile isSpacing with
          | ')' :: after => some ({ url, title := some title }, after)
          | _ => none
      else none

/-- Reads what follows the opening bracket of a label: the label, and what follows its closing
    one. -/
def readLabel (cs : List Char) : Option (List Char × List Char) :=
  (readUntil ']' ['['] cs).bind fun (label, rest) =>
    if label.length ≤ 999 then some (label, rest) else none

/-- Reads the definition of a label at the beginning of a text: the label, where it leads, and what
    follows. Nothing but blanks may follow on its last line. -/
def readDefinition (cs : List Char) : Option (List Char × Target × List Char) :=
  let blank (c : Char) : Bool := c = ' ' || c = '\t'
  match cs.dropWhile blank with
  | '[' :: inner =>
    (readLabel inner).bind fun (label, rest) =>
      match rest with
      | ':' :: rest =>
        let start := rest.dropWhile isSpacing
        if label.all isSpacing || start.isEmpty then none
        else (readAddress start).bind fun (url, rest) =>
          let bracketed := start.head? = some '<'
          let gap := rest.dropWhile isSpacing
          let titled : Option (Target × List Char) :=
            if gap.length < rest.length then
              (readTitle gap).bind fun (title, rest) =>
                match rest.dropWhile blank with
                | [] => some ({ url, title := some title }, [])
                | '\n' :: after => some ({ url, title := some title }, after)
                | _ => none
            else none
          match titled with
          | some (target, after) => some (label, target, after)
          | none =>
            if url.isEmpty && !bracketed then none
            else match rest.dropWhile blank with
              | [] => some (label, { url }, [])
              | '\n' :: after => some (label, { url }, after)
              | _ => none
      | _ => none
  | _ => none

end Manuscript.Markdown
