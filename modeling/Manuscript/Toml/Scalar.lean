import Manuscript.Error.Fault
import Manuscript.Number.Decimal
import Manuscript.Text.Hex
import Manuscript.Text.Numeral
import Manuscript.Value

/-!
# Scalars in a TOML text

Texts, numbers and dates, each taken from the front of what is left of a text.
-/

namespace Manuscript.Toml

/-- Refuses a text. -/
def refuse (why : String) : Except Fault α :=
  .error (.malformed why)

/-- The text after the blanks. -/
def skipBlanks (cs : List Char) : List Char :=
  cs.dropWhile fun c => c == ' ' || c == '\t'

/-- The text after the blanks and line feeds. -/
def skipSpace (cs : List Char) : List Char :=
  cs.dropWhile fun c => c == ' ' || c == '\t' || c == '\n'

/-- Whether a character may stand in a comment, or in a text of one line. -/
def isPlainChar (c : Char) : Bool :=
  c == '\t' || (0x20 ≤ c.toNat && c.toNat != 0x7f)

/-! ## Texts -/

/-- The character that a letter after a backslash stands for. -/
def escape? : Char → Option Char
  | 'b' => some '\x08' | 't' => some '\t' | 'n' => some '\n' | 'f' => some '\x0c' | 'r' => some '\r'
  | '\x22' => some '\x22' | '\\' => some '\\' | _ => none

/-- Takes the character of a code of some digits. -/
def takeCode (length : Nat) (cs : List Char) : Except Fault (Char × List Char) :=
  let digits := cs.take length
  match Text.ofHex? digits with
  | some n =>
    if digits.length = length ∧ n.isValidChar then .ok (.ofNat n, cs.drop length)
    else refuse "escaped character is not a Unicode scalar value"
  | none => refuse "invalid hex value"

/-- Takes what a backslash begins. In a text of several lines, a backslash at the end of a line
    takes away all white space that follows. -/
def takeEscape (multiline : Bool) (cs : List Char) : Except Fault (List Char × List Char) :=
  match cs with
  | [] => refuse "unescaped backslash in a string"
  | c :: rest =>
    if multiline ∧ (c = ' ' ∨ c = '\t' ∨ c = '\n') then
      match skipBlanks cs with
      | '\n' :: after => .ok ([], skipSpace after)
      | [] => .ok ([], [])
      | _ => refuse "unescaped backslash in a string"
    else if c = 'u' then (takeCode 4 rest).map fun (x, r) => ([x], r)
    else if c = 'U' then (takeCode 8 rest).map fun (x, r) => ([x], r)
    else
      match escape? c with
      | some x => .ok ([x], rest)
      | none => refuse "unescaped backslash in a string"

/-- Takes the rest of a text between double quotes, and the quotes that close it. -/
def takeBasic (multiline : Bool) : Nat → List Char → Except Fault (List Char × List Char)
  | 0, _ => refuse "unterminated string"
  | fuel + 1, cs =>
    match cs with
    | [] => refuse "unterminated string"
    | '\\' :: rest => do
      let (text, rest) ← takeEscape multiline rest
      let (more, rest) ← takeBasic multiline fuel rest
      return (text ++ more, rest)
    | c :: rest =>
      if c = '\x22' ∧ !multiline then .ok ([], rest)
      else if c = '\x22' ∧ rest.take 2 = ['\x22', '\x22'] then .ok ([], rest.drop 2)
      else if isPlainChar c || (multiline && c == '\n') then do
        let (more, rest) ← takeBasic multiline fuel rest
        return (c :: more, rest)
      else refuse "illegal character"

/-- Takes the rest of a text between single quotes, in which nothing is escaped, and the quotes. -/
def takeLiteral (multiline : Bool) : List Char → Except Fault (List Char × List Char)
  | [] => refuse "unterminated string"
  | c :: rest =>
    if c = '\x27' ∧ (!multiline ∨ rest.take 2 = ['\x27', '\x27']) then
      .ok ([], if multiline then rest.drop 2 else rest)
    else if isPlainChar c || (multiline && c == '\n') then do
      let (more, rest) ← takeLiteral multiline rest
      return (c :: more, rest)
    else refuse "illegal character"

/-- Takes up to two quotes that stand before the three that close a text. -/
def takeQuotes (quote : Char) (text : List Char) (rest : List Char) : List Char × List Char :=
  let n := (rest.takeWhile (· == quote)).length.min 2
  (text ++ List.replicate n quote, rest.drop n)

/-- Takes a text whose quote is the first character. Three quotes open a text of several lines; a
    line feed right after them is dropped. -/
def takeText (lines : Bool) (cs : List Char) : Except Fault (String × List Char) := do
  let quote := cs.head?.getD '\x22'
  let scan (multiline : Bool) (cs : List Char) : Except Fault (List Char × List Char) :=
    if quote = '\x27' then takeLiteral multiline cs else takeBasic multiline (cs.length + 1) cs
  if lines ∧ cs.take 3 = [quote, quote, quote] then
    let body := match cs.drop 3 with
      | '\n' :: body => body
      | body => body
    let (text, rest) ← scan true body
    let (text, rest) := takeQuotes quote text rest
    return (.ofList text, rest)
  else
    let (text, rest) ← scan false cs.tail
    return (.ofList text, rest)

/-! ## Dates and times -/

/-- Takes a number of exactly some digits, between two bounds. -/
def takeField (digits low high : Nat) (cs : List Char) : Option (Nat × List Char) :=
  let ds := cs.take digits
  if ds.length = digits ∧ ds.all Char.isDigit then
    match Text.ofRadix? 10 ds with
    | some n => if low ≤ n ∧ n ≤ high then some (n, cs.drop digits) else none
    | none => none
  else none

/-- Takes a character. -/
def takeChar (c : Char) (cs : List Char) : Option (List Char) :=
  if cs.head? = some c then some cs.tail else none

/-- Takes a time of day. Of the digits of a fraction, the first six count. -/
def takeTime (cs : List Char) : Option (Time × List Char) := do
  let (hour, rest) ← takeField 2 0 23 cs
  let (minute, rest) ← takeField 2 0 59 (← takeChar ':' rest)
  let (second, rest) ← takeField 2 0 59 (← takeChar ':' rest)
  match rest with
  | '.' :: after =>
    let (ds, after) := after.span Char.isDigit
    if ds.isEmpty then return (⟨hour, minute, second, 0⟩, rest)
    else
      let micros := (ds ++ List.replicate 6 '0').take 6
      return (⟨hour, minute, second, (Text.ofRadix? 10 micros).getD 0⟩, after)
  | _ => return (⟨hour, minute, second, 0⟩, rest)

/-- Takes the distance from universal time, in seconds, if there is one. -/
def takeOffset (cs : List Char) : Option Int × List Char :=
  match cs with
  | 'Z' :: rest | 'z' :: rest => (some 0, rest)
  | sign :: rest =>
    let offset? := do
      if sign ≠ '+' ∧ sign ≠ '-' then none
      let (hours, rest) ← takeField 2 0 23 rest
      let (minutes, rest) ← takeField 2 0 59 (← takeChar ':' rest)
      let seconds : Int := hours * 3600 + minutes * 60
      return ((if sign = '-' then -seconds else seconds), rest)
    match offset? with
    | some (seconds, rest) => (some seconds, rest)
    | none => (none, cs)
  | [] => (none, cs)

/-- The number of days in a month. -/
def monthLength (year month : Nat) : Nat :=
  if month = 2 then
    if (year % 4 = 0 ∧ year % 100 ≠ 0) ∨ year % 400 = 0 then 29 else 28
  else if [4, 6, 9, 11].contains month then 30
  else 31

/-- Takes a date, and a time if one follows. None if the text has not the form of one. -/
def takeDate? (cs : List Char) : Option (Except Fault (Value × List Char)) := do
  let (year, rest) ← takeField 4 0 9999 cs
  let (month, rest) ← takeField 2 1 12 (← takeChar '-' rest)
  let (day, rest) ← takeField 2 1 31 (← takeChar '-' rest)
  let date : Date := ⟨year, month, day⟩
  let (v, rest) := match rest with
    | sep :: after =>
      match (if sep = 'T' ∨ sep = 't' ∨ sep = ' ' then takeTime after else none) with
      | some (time, after) =>
        let (offset, after) := takeOffset after
        (Value.moment ⟨date, time, offset⟩, after)
      | none => (Value.date date, rest)
    | [] => (Value.date date, rest)
  if year = 0 ∨ monthLength year month < day then return refuse "invalid date or datetime"
  else return .ok (v, rest)

/-! ## Numbers -/

/-- Takes digits, each after the first one with an underscore before it or not. -/
def takeGrouped (isDigit : Char → Bool) : List Char → List Char × List Char
  | '_' :: c :: rest =>
    if isDigit c then
      let (ds, rest) := takeGrouped isDigit rest
      (c :: ds, rest)
    else ([], '_' :: c :: rest)
  | c :: rest =>
    if isDigit c then
      let (ds, rest) := takeGrouped isDigit rest
      (c :: ds, rest)
    else ([], c :: rest)
  | [] => ([], [])

/-- Takes digits that do not begin with an underscore. -/
def takeNumerals (isDigit : Char → Bool) (cs : List Char) : List Char × List Char :=
  if cs.head?.any isDigit then takeGrouped isDigit cs else ([], cs)

/-- Takes a whole number of base two, eight or sixteen. -/
def takeRadix? (cs : List Char) : Option (Value × List Char) := do
  let (base, body) ← match cs with
    | '0' :: 'x' :: body => some (16, body)
    | '0' :: 'o' :: body => some (8, body)
    | '0' :: 'b' :: body => some (2, body)
    | _ => none
  let (ds, rest) := takeNumerals (fun c => (Text.ofRadix? base [c]).isSome) body
  if ds.isEmpty then none
  let n ← Text.ofRadix? base ds
  return (.int n, rest)

/-- Takes the sign of a number, if there is one: whether it is negative. -/
def takeSign (cs : List Char) : Bool × List Char :=
  match cs with
  | '-' :: rest => (true, rest)
  | '+' :: rest => (false, rest)
  | _ => (false, cs)

/-- Takes a number of base ten. None if the text has not the form of one. -/
def takeDecimal? (cs : List Char) : Option (Except Fault (Value × List Char)) := do
  let (negative, body) := takeSign cs
  let (whole, rest) ← Text.takeWhole (takeNumerals Char.isDigit) body
  let (fraction, rest) := Text.takeFraction (takeNumerals Char.isDigit) rest
  let (exponent, rest) := Text.takeExponent (takeNumerals Char.isDigit) rest
  if fraction.isEmpty ∧ exponent.isEmpty then
    let text := String.ofList (if negative then '-' :: whole else whole)
    match Text.readInteger text with
    | .ok n => return .ok (.int n, rest)
    | .error e => return .error (.badValue e.message)
  else
    let x ← Binary.ofDecimalText? negative (whole ++ fraction ++ exponent)
    return .ok (.float x, rest)

/-- Takes the name of a number that is not finite. -/
def takeSpecial? (cs : List Char) : Option (Value × List Char) :=
  let (negative, body) := takeSign cs
  match body with
  | 'i' :: 'n' :: 'f' :: rest => some (.float (.infinite negative), rest)
  | 'n' :: 'a' :: 'n' :: rest => some (.float .nan, rest)
  | _ => none

/-- Takes a date, time or number. -/
def takeNumeric (cs : List Char) : Except Fault (Value × List Char) :=
  match takeDate? cs, takeTime cs, takeRadix? cs, takeDecimal? cs, takeSpecial? cs with
  | some result, _, _, _, _ => result
  | none, some (t, rest), _, _, _ => .ok (.time t, rest)
  | none, none, some result, _, _ => .ok result
  | none, none, none, some result, _ => result
  | none, none, none, none, some result => .ok result
  | none, none, none, none, none => refuse "invalid value"

end Manuscript.Toml
