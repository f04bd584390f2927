import Manuscript.Text.Hex
import Manuscript.Text.Utf8
import Manuscript.Yaml.Cursor
import Manuscript.Yaml.Token

/-!
# Names, tags and directives in a YAML text

What stands before a value: anchors and aliases, which give it a name, tags, which say what it is,
and the directives at the head of a document.
-/

namespace Manuscript.Yaml

/-- The characters of a name. -/
def isNameChar (c : Char) : Bool :=
  c.isAlphanum || c == '-' || c == '_'

/-- Takes the name of an anchor or alias. -/
def takeName (c : Cursor) : Except Fault (String × Cursor) :=
  let (name, c) := c.span isNameChar
  if name.isEmpty then refuse "expected alphabetic or numeric character"
  else if endsWord c.peek || c.peek.any "?:,]\x7d%@\x60".toList.contains then .ok (.ofList name, c)
  else refuse "expected alphabetic or numeric character after a name"

namespace Tag

/-- The characters of the rest of a tag, and of the beginnings that short forms stand for. -/
def isAddressChar (c : Char) : Bool :=
  c.isAlphanum || "-;/?:@&=+$,_.!~*'()[]".toList.contains c

/-- Takes bytes that are given by a percent sign and two digits each. -/
def takeBytes : Nat → Cursor → Except Fault (List UInt8 × Cursor)
  | 0, c => .ok ([], c)
  | fuel + 1, c =>
    match c.rest with
    | '%' :: a :: b :: _ =>
      match Text.ofHex? [a, b] with
      | some n => do
        let (more, c) ← takeBytes fuel (c.advance 3)
        return (n.toUInt8 :: more, c)
      | none => refuse "expected URI escape sequence of 2 hexdecimal numbers"
    | '%' :: _ => refuse "expected URI escape sequence of 2 hexdecimal numbers"
    | _ => .ok ([], c)

/-- The pieces of an address. -/
def addressPieces : Nat → Cursor → Except Fault (List Char × Cursor)
  | 0, c => .ok ([], c)
  | fuel + 1, c => do
    let (piece, c) := c.span isAddressChar
    if c.peek = some '%' then
      let (bytes, c) ← takeBytes (c.rest.length + 1) c
      match Text.decodeUtf8? ⟨bytes.toArray⟩ with
      | some text =>
        let (more, c) ← addressPieces fuel c
        return (piece ++ text.toList ++ more, c)
      | none => refuse "expected URI escape sequences to be text"
    else return (piece, c)

/-- Takes the rest of a tag. -/
def takeAddress (c : Cursor) : Except Fault (String × Cursor) := do
  let (text, after) ← addressPieces (c.rest.length + 1) c
  if after.index = c.index then refuse "expected URI" else return (.ofList text, after)

/-- Takes the short form that a tag begins with: an exclamation mark, or a name between two. -/
def takeHandle (c : Cursor) : Except Fault (String × Cursor) :=
  if c.peek ≠ some '!' then refuse "expected '!'"
  else if c.peek 1 = some ' ' then .ok ("!", c.next)
  else
    let (name, after) := c.next.span isNameChar
    if after.peek = some '!' then .ok (.ofList ('!' :: name ++ ['!']), after.next)
    else refuse "expected '!'"

/-- Whether a tag has a second exclamation mark before its end. -/
def hasHandle (cs : List Char) : Bool :=
  (cs.takeWhile fun c => c != ' ' && !isBreak c).contains '!'

end Tag

open Tag in
/-- Takes a tag. -/
def takeTag (c : Cursor) : Except Fault (Token × Cursor) := do
  let (handle, suffix, c) ←
    if c.peek 1 = some '<' then do
      let (suffix, c) ← takeAddress (c.advance 2)
      if c.peek = some '>' then pure (none, suffix, c.next) else refuse "expected '>'"
    else if endsWord (c.peek 1) then pure (none, "!", c.next)
    else do
      let (handle, c) ← if hasHandle c.next.rest then takeHandle c else pure ("!", c.next)
      let (suffix, c) ← takeAddress c
      pure (some handle, suffix, c)
  if c.peek = some ' ' ∨ endsLine c.peek then return (.tag handle suffix, c)
  else refuse "expected ' '"

namespace Directive

/-- Takes a number. -/
def takeNumber (c : Cursor) : Except Fault (Nat × Cursor) :=
  let (digits, c) := c.span Char.isDigit
  match Text.ofRadix? 10 digits with
  | some n => if digits.isEmpty then refuse "expected a digit" else .ok (n, c)
  | none => refuse "expected a digit"

/-- The end of the value of a directive. -/
def checkEnd (c : Cursor) : Except Fault Unit :=
  if c.peek = some ' ' ∨ endsLine c.peek then .ok () else refuse "expected ' '"

end Directive

open Directive in
/-- Takes a directive, to the end of its line. -/
def takeDirective (c : Cursor) : Except Fault (Token × Cursor) := do
  let (name, c) := c.next.span isNameChar
  if name.isEmpty then refuse "expected alphabetic or numeric character"
  checkEnd c
  let (token, c) ← match String.ofList name with
    | "YAML" => do
      let (major, c) ← takeNumber c.skipSpaces
      if c.peek ≠ some '.' then refuse "expected a digit or '.'"
      let (_, c) ← takeNumber c.next
      checkEnd c
      pure (Token.version major, c)
    | "TAG" => do
      let (handle, c) ← Tag.takeHandle c.skipSpaces
      if c.peek ≠ some ' ' then refuse "expected ' '"
      let (start, c) ← Tag.takeAddress c.skipSpaces
      checkEnd c
      pure (Token.shorthand handle start, c)
    | _ => pure (Token.reserved, c.skip fun x => !isBreak x)
  return (token, ← c.skipLine)

end Manuscript.Yaml
