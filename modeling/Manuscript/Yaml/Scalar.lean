import Manuscript.Text.Hex
import Manuscript.Yaml.Cursor

/-!
# Scalars in a YAML text

A scalar is written plainly, between quotes, or as an indented block of lines. A line break inside a
plain or quoted one is folded: it is read as a blank, and several in a row as one less.
-/

namespace Manuscript.Yaml

/-- What a line break and the empty lines after it are folded into. -/
def fold (ending : List Char) (empty : List Char) : List Char :=
  (if ending ≠ ['\n'] then ending else if empty.isEmpty then [' '] else []) ++ empty

namespace Plain

/-- The characters of a plain scalar up to the next blank. Within brackets, these and the separators
    end it. -/
def chunk (flow : Bool) : List Char → List Char
  | [] => []
  | c :: rest =>
    let next := rest.head?
    let ends := endsWord (some c) || (flow && ",?[]\x7b\x7d".toList.contains c) ||
      (c == ':' && (endsWord next || (flow && next.any ",[]\x7b\x7d".toList.contains)))
    if ends then [] else c :: chunk flow rest

/-- The empty lines that follow, up to a mark between documents; whether there is one. -/
def emptyLines : Nat → Cursor → List Char × Cursor × Bool
  | 0, c => ([], c, true)
  | fuel + 1, c =>
    let c := c.skipSpaces
    if c.peek.any isBreak then
      let (ending, c) := c.lineBreak
      if c.atMarker then (ending, c, true)
      else
        let (more, c, marked) := emptyLines fuel c
        (ending ++ more, c, marked)
    else ([], c, false)

/-- What stands between two words of a plain scalar, folded: nothing where it ends. Whether a line
    was ended. -/
def gap (c : Cursor) : List Char × Cursor × Bool :=
  let (blanks, c) := c.span (· == ' ')
  if c.peek.any isBreak then
    let (ending, c) := c.lineBreak
    if c.atMarker then ([], c, true)
    else
      let (empty, c, marked) := emptyLines (c.rest.length + 1) c
      (if marked then [] else fold ending empty, c, true)
  else (blanks, c, false)

/-- The rest of a plain scalar, after the gap `lead`. -/
def scan (flow : Bool) (indent : Int) : Nat → List Char → Cursor → Bool → List Char × Cursor × Bool
  | 0, _, c, ended => ([], c, ended)
  | fuel + 1, lead, c, ended =>
    let word := chunk flow c.rest
    if word.isEmpty then ([], c, ended)
    else
      let (blanks, c, ended) := gap (c.advance word.length)
      if blanks.isEmpty || c.peek == some '#' || (!flow && decide ((c.column : Int) < indent)) then
        (lead ++ word, c, ended)
      else
        let (more, c, ended) := scan flow indent fuel blanks c ended
        (lead ++ word ++ more, c, ended)

end Plain

/-- Takes a plain scalar that is indented more than `indent`: its text, and whether a line was ended
    after it. -/
def takePlain (flow : Bool) (indent : Int) (c : Cursor) : String × Cursor × Bool :=
  let (text, c, ended) := Plain.scan flow (indent + 1) (c.rest.length + 1) [] c false
  (.ofList text, c, ended)

namespace Quotation

/-- The character that a letter after a backslash stands for. -/
def escape? : Char → Option Char
  | '0' => '\x00' | 'a' => '\x07' | 'b' => '\x08' | 't' => '\t' | '\t' => '\t' | 'n' => '\n'
  | 'v' => '\x0b' | 'f' => '\x0c' | 'r' => '\r' | 'e' => '\x1b' | ' ' => ' ' | '\x22' => '\x22'
  | '\\' => '\\' | '/' => '/' | 'N' => '\u0085' | '_' => '\u00a0' | 'L' => '\u2028'
  | 'P' => '\u2029' | _ => none

/-- How many digits the code has that a letter after a backslash announces. -/
def codeLength? : Char → Option Nat
  | 'x' => some 2 | 'u' => some 4 | 'U' => some 8 | _ => none

/-- The empty lines that follow, without their indentation. -/
def emptyLines : Nat → Cursor → Except Fault (List Char × Cursor)
  | 0, c => .ok ([], c)
  | fuel + 1, c =>
    if c.atMarker then refuse "found unexpected document separator"
    else
      let c := c.skip fun x => x == ' ' || x == '\t'
      if c.peek.any isBreak then do
        let (ending, c) := c.lineBreak
        let (more, c) ← emptyLines fuel c
        return (ending ++ more, c)
      else .ok ([], c)

/-- Takes what a backslash begins. -/
def takeEscape (c : Cursor) : Except Fault (List Char × Cursor) :=
  match c.peek with
  | none => refuse "found unexpected end of stream"
  | some x =>
    match escape? x, codeLength? x with
    | some y, _ => .ok ([y], c.next)
    | none, some n =>
      let c := c.next
      let digits := c.rest.take n
      match Text.ofHex? digits with
      | some code =>
        if digits.length < n then refuse "expected escape sequence"
        else if 0x7fffffff < code then .error .overflow
        else if 0x10ffff < code then
          .error (.badValue "chr() arg not in range(0x110000)")
        -- codes that stand for no character are shown as the replacement character
        else .ok ([if code.isValidChar then .ofNat code else '\ufffd'], c.advance n)
      | none => refuse "expected escape sequence"
    | none, none =>
      if isBreak x then emptyLines (c.rest.length + 1) c.lineBreak.2
      else refuse "found unknown escape character"

/-- Takes blanks and line breaks between quotes, folded. -/
def takeBlanks (c : Cursor) : Except Fault (List Char × Cursor) :=
  let (blanks, c) := c.span fun x => x == ' ' || x == '\t'
  match c.peek with
  | none => refuse "found unexpected end of stream"
  | some x =>
    if isBreak x then do
      let (ending, c) := c.lineBreak
      let (empty, c) ← emptyLines (c.rest.length + 1) c
      return (fold ending empty, c)
    else .ok (blanks, c)

/-- Takes the rest of a text between quotes, and the quote that closes it. Only double quotes give
    the backslash a meaning; within single ones, two of them stand for one. -/
def scan (quote : Char) : Nat → Cursor → Except Fault (List Char × Cursor)
  | 0, _ => refuse "found unexpected end of stream"
  | fuel + 1, c =>
    match c.peek with
    | none => refuse "found unexpected end of stream"
    | some x =>
      let piece : Except Fault (Option (List Char × Cursor)) :=
        if x = quote then
          if quote = '\x27' ∧ c.peek 1 = some quote then .ok (some ([quote], c.next.next))
          else .ok none
        else if x = '\\' ∧ quote = '\x22' then (takeEscape c.next).map some
        else if x = ' ' ∨ x = '\t' ∨ isBreak x then (takeBlanks c).map some
        else .ok (some ([x], c.next))
      match piece with
      | .error e => .error e
      | .ok none => .ok ([], c.next)
      | .ok (some (text, c)) => do
        let (more, c) ← scan quote fuel c
        return (text ++ more, c)

end Quotation

/-- Takes a text between quotes. -/
def takeQuoted (quote : Char) (c : Cursor) : Except Fault (String × Cursor) := do
  let (text, c) ← Quotation.scan quote (c.rest.length + 1) c.next
  return (.ofList text, c)

namespace BlockText

/-- What becomes of the line ends at the end of a block. -/
inductive Chomping
  | strip
  | clip
  | keep
  deriving DecidableEq, Repr

/-- Takes the indicators after the one that opens a block, in either order: what becomes of its end,
    and how much it is indented. -/
def takeIndicators (c : Cursor) : Except Fault (Chomping × Option Nat × Cursor) := do
  let chomping? : Option Char → Option Chomping
    | some '+' => some .keep
    | some '-' => some .strip
    | _ => none
  let indentation? : Option Char → Except Fault (Option Nat)
    | some '0' => refuse "expected indentation indicator in the range 1-9, but found 0"
    | some d => .ok (if d.isDigit then some (d.toNat - 0x30) else none)
    | none => .ok none
  let (chomping, indentation, c) ← match chomping? c.peek with
    | some chomping => do
      let c := c.next
      match ← indentation? c.peek with
      | some n => pure (chomping, some n, c.next)
      | none => pure (chomping, none, c)
    | none => do
      match ← indentation? c.peek with
      | some n =>
        let c := c.next
        match chomping? c.peek with
        | some chomping => pure (chomping, some n, c.next)
        | none => pure (.clip, some n, c)
      | none => pure (.clip, none, c)
  if c.peek = some ' ' ∨ endsLine c.peek then return (chomping, indentation, c)
  else refuse "expected chomping or indentation indicators"

/-- Skips blanks up to a column. -/
def skipIndent (column : Nat) (c : Cursor) : Cursor :=
  c.advance ((c.rest.takeWhile (· == ' ')).length.min (column - c.column))

/-- The empty lines before the first one of a block, and the widest indentation among them and
    it. -/
def measure : Nat → Nat → Cursor → List Char × Nat × Cursor
  | 0, widest, c => ([], widest, c)
  | fuel + 1, widest, c =>
    let c := c.skipSpaces
    let widest := max widest c.column
    if c.peek.any isBreak then
      let (ending, c) := c.lineBreak
      let (more, widest, c) := measure fuel widest c
      (ending ++ more, widest, c)
    else ([], widest, c)

/-- The empty lines within a block. -/
def emptyLines (indent : Nat) : Nat → Cursor → List Char × Cursor
  | 0, c => ([], c)
  | fuel + 1, c =>
    let c := skipIndent indent c
    if c.peek.any isBreak then
      let (ending, c) := c.lineBreak
      let (more, c) := emptyLines indent fuel c
      (ending ++ more, c)
    else ([], c)

/-- Takes the lines of a block, after the empty lines `empty`. -/
def scan (folded : Bool) (chomping : Chomping) (indent : Nat) :
    Nat → List Char → Cursor → List Char × Cursor
  | 0, _, c => ([], c)
  | fuel + 1, empty, c =>
    let isIndented : Option Char → Bool := fun x => x == some ' ' || x == some '\t'
    let flush := !isIndented c.peek
    let (line, c) := c.span fun x => !isBreak x
    let (ending, c) := c.lineBreak
    let (after, c) := emptyLines indent (c.rest.length + 1) c
    if c.column = indent ∧ c.peek ≠ none then
      let joint := if folded && ending == ['\n'] && flush && !isIndented c.peek then
          if after.isEmpty then [' '] else []
        else ending
      let (more, c) := scan folded chomping indent fuel after c
      (empty ++ line ++ joint ++ more, c)
    else
      let tail := match chomping with
        | .strip => []
        | .clip => ending
        | .keep => ending ++ after
      (empty ++ line ++ tail, c)

end BlockText

open BlockText in
/-- Takes a block of lines that are indented more than `indent`. -/
def takeBlockText (folded : Bool) (indent : Int) (c : Cursor) : Except Fault (String × Cursor) := do
  let (chomping, indentation, c) ← takeIndicators c.next
  let c ← c.skipLine
  let least := (indent + 1).toNat.max 1
  let (empty, width, c) := match indentation with
    | none =>
      let (empty, widest, c) := measure (c.rest.length + 1) 0 c
      (empty, max least widest, c)
    | some n =>
      let width := least + n - 1
      let (empty, c) := emptyLines width (c.rest.length + 1) c
      (empty, width, c)
  if c.column = width ∧ c.peek ≠ none then
    let (text, c) := scan folded chomping width (c.rest.length + 1) empty c
    return (.ofList text, c)
  else return (.ofList (if chomping = .keep then empty else []), c)

end Manuscript.Yaml
