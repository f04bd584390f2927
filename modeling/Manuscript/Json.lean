import Manuscript.Error.Fault
import Manuscript.Number.Decimal
import Manuscript.Text.Hex
import Manuscript.Text.Numeral
import Manuscript.Value

/-!
# JSON

A text of JSON is read as a value. Beyond the standard, numbers that are not finite have names.
Where an object has several members of one name, the last one holds.
-/

namespace Manuscript.Json

/-- Refuses a text. -/
def refuse (why : String) : Except Fault α :=
  .error (.malformed why)

/-- The text after the white space. -/
def skipSpace (cs : List Char) : List Char :=
  cs.dropWhile fun c => c == ' ' || c == '\t' || c == '\n' || c == '\r'

/-- The character that a letter after a backslash stands for. -/
def escape? : Char → Option Char
  | '\x22' => some '\x22' | '\\' => some '\\' | '/' => some '/' | 'b' => some '\x08'
  | 'f' => some '\x0c' | 'n' => some '\n' | 'r' => some '\r' | 't' => some '\t' | _ => none

/-- The four digits of a code. -/
def code? : List Char → Option (Nat × List Char)
  | a :: b :: c :: d :: rest => (Text.ofHex? [a, b, c, d]).map (·, rest)
  | _ => none

/-- The character of a code that may be the first of a pair, and what follows it. One half of a pair
    alone is shown as the replacement character. -/
def decodeCode (code : Nat) (rest : List Char) : Char × List Char :=
  if 0xd800 ≤ code ∧ code < 0xdc00 then
    match rest with
    | '\\' :: 'u' :: rest' =>
      match code? rest' with
      | some (low, after) =>
        if 0xdc00 ≤ low ∧ low < 0xe000 then
          (.ofNat (0x10000 + (code - 0xd800) * 0x400 + (low - 0xdc00)), after)
        else ('\ufffd', rest)
      | none => ('\ufffd', rest)
    | _ => ('\ufffd', rest)
  else (if 0xdc00 ≤ code ∧ code < 0xe000 then '\ufffd' else .ofNat code, rest)

/-- Takes the rest of a text, and the quote that closes it. -/
def takeText : Nat → List Char → Except Fault (List Char × List Char)
  | 0, _ => refuse "unterminated string"
  | fuel + 1, cs =>
    match cs with
    | [] => refuse "unterminated string"
    | '\x22' :: rest => .ok ([], rest)
    | '\\' :: 'u' :: rest =>
      match code? rest with
      | some (code, rest) => do
        let (c, rest) := decodeCode code rest
        let (more, rest) ← takeText fuel rest
        return (c :: more, rest)
      | none => refuse "invalid \\uXXXX escape"
    | '\\' :: e :: rest =>
      match escape? e with
      | some c => do
        let (more, rest) ← takeText fuel rest
        return (c :: more, rest)
      | none => refuse "invalid \\escape"
    | c :: rest =>
      if c = '\\' ∨ c.toNat < 0x20 then refuse "invalid control character"
      else do
        let (more, rest) ← takeText fuel rest
        return (c :: more, rest)

/-- Takes digits. -/
def takeDigits (cs : List Char) : List Char × List Char :=
  cs.span Char.isDigit

/-- Takes a number without its sign: the digits before the point, what follows them up to the end of
    the number, and the rest. -/
def takeNumber (cs : List Char) : Option (List Char × List Char × List Char) := do
  let (whole, rest) ← Text.takeWhole takeDigits cs
  let (fraction, rest) := Text.takeFraction takeDigits rest
  let (exponent, rest) := Text.takeExponent takeDigits rest
  return (whole, fraction ++ exponent, rest)

/-- The number of the given parts. -/
def readNumber (negative : Bool) (whole tail : List Char) : Except Fault Value :=
  if tail.isEmpty then
    let text := String.ofList (if negative then '-' :: whole else whole)
    match Text.readInteger text with
    | .ok n => .ok (.int n)
    | .error e => .error (.badValue e.message)
  else
    match Binary.ofDecimalText? negative (whole ++ tail) with
    | some x => .ok (.float x)
    | none => refuse "expecting value"

mutual

/-- Takes a value. -/
def takeValue : Nat → List Char → Except Fault (Value × List Char)
  | 0, _ => refuse "too many levels"
  | fuel + 1, cs =>
    match cs with
    | '\x22' :: rest => do
      let (text, rest) ← takeText (rest.length + 1) rest
      return (.text (.ofList text), rest)
    | '\x7b' :: rest =>
      match skipSpace rest with
      | '\x7d' :: rest => .ok (.map [], rest)
      | rest => do
        let (entries, rest) ← takeMembers fuel [] rest
        return (.map entries, rest)
    | '[' :: rest =>
      match skipSpace rest with
      | ']' :: rest => .ok (.list [], rest)
      | rest => do
        let (items, rest) ← takeItems fuel rest
        return (.list items, rest)
    | 'n' :: 'u' :: 'l' :: 'l' :: rest => .ok (.null, rest)
    | 't' :: 'r' :: 'u' :: 'e' :: rest => .ok (.bool true, rest)
    | 'f' :: 'a' :: 'l' :: 's' :: 'e' :: rest => .ok (.bool false, rest)
    | 'N' :: 'a' :: 'N' :: rest => .ok (.float .nan, rest)
    | _ =>
      let (negative, body) := match cs with
        | '-' :: rest => (true, rest)
        | _ => (false, cs)
      match body, takeNumber body with
      | 'I' :: 'n' :: 'f' :: 'i' :: 'n' :: 'i' :: 't' :: 'y' :: rest, _ =>
        .ok (.float (.infinite negative), rest)
      | _, some (whole, tail, rest) => do return (← readNumber negative whole tail, rest)
      | _, none => refuse "expecting value"

/-- Takes the items of an array, and the bracket that closes it. -/
def takeItems : Nat → List Char → Except Fault (List Value × List Char)
  | 0, _ => refuse "too many levels"
  | fuel + 1, cs => do
    let (v, rest) ← takeValue fuel cs
    match skipSpace rest with
    | ',' :: rest =>
      let (vs, rest) ← takeItems fuel (skipSpace rest)
      return (v :: vs, rest)
    | ']' :: rest => return ([v], rest)
    | _ => refuse "expecting ',' delimiter"

/-- Takes the members of an object after others, and the bracket that closes it. -/
def takeMembers : Nat → List (Value × Value) → List Char →
    Except Fault (List (Value × Value) × List Char)
  | 0, _, _ => refuse "too many levels"
  | fuel + 1, before, cs =>
    match cs with
    | '\x22' :: rest => do
      let (name, rest) ← takeText (rest.length + 1) rest
      match skipSpace rest with
      | ':' :: rest =>
        let (v, rest) ← takeValue fuel (skipSpace rest)
        let entries := Value.put before (.text (.ofList name)) v
        match skipSpace rest with
        | ',' :: rest => takeMembers fuel entries (skipSpace rest)
        | '\x7d' :: rest => return (entries, rest)
        | _ => refuse "expecting ',' delimiter"
      | _ => refuse "expecting ':' delimiter"
    | _ => refuse "expecting property name enclosed in double quotes"

end

/-- The value of a text. -/
def read (text : String) : Except Fault Value := do
  let cs := skipSpace text.toList
  let (v, rest) ← takeValue (2 * cs.length + 2) cs
  if (skipSpace rest).isEmpty then return v else refuse "extra data"

end Manuscript.Json
