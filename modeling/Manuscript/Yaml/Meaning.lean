import Manuscript.Number.Decimal
import Manuscript.Text.Base64
import Manuscript.Text.Radix
import Manuscript.Value
import Manuscript.Yaml.Tree

/-!
# What YAML scalars stand for

A scalar without a tag stands for what its text looks like: a truth value, a number, a date or
nothing, and text in all other cases (`impliedKind`). A tag of a standard kind has the text read as
that kind, whether it looks like it or not.
-/

namespace Manuscript.Yaml

/-- The standard kinds of scalars. -/
inductive Kind
  | null
  | bool
  | int
  | float
  | binary
  | timestamp
  | str
  /-- The key whose values are merged into a mapping. -/
  | merge
  /-- The key that stands for the value of a mapping. -/
  | value
  deriving DecidableEq, Repr

namespace Kind

/-- The name of a kind in its tag. -/
def name : Kind → String
  | null => "null"
  | bool => "bool"
  | int => "int"
  | float => "float"
  | binary => "binary"
  | timestamp => "timestamp"
  | str => "str"
  | merge => "merge"
  | value => "value"

/-- The kind of a tag. -/
def ofTag? (tag : String) : Option Kind :=
  [null, bool, int, float, binary, timestamp, str, merge, value].find? fun k =>
    standardTag k.name == tag

end Kind

/-! ## Forms -/

/-- Truth values by their words. -/
def truth? (word : String) : Option Bool :=
  if ["yes", "true", "on"].contains word then some true
  else if ["no", "false", "off"].contains word then some false
  else none

/-- Whether a text is a word in lower case, upper case, or with its first letter in upper case. -/
def isCasing (word s : String) : Bool :=
  s == word || s == word.toUpper || s == word.capitalize

/-- Whether a text has the form of a truth value. -/
def looksBool (s : String) : Bool :=
  ["yes", "no", "true", "false", "on", "off"].any fun w => isCasing w s

/-- Whether a text has the form of no value. -/
def looksNull (s : String) : Bool :=
  s.isEmpty || s == "~" || isCasing "null" s

/-- The text without its sign. -/
def unsigned : List Char → List Char
  | '-' :: rest | '+' :: rest => rest
  | cs => cs

/-- Takes digits of base 60 after a number: one or two digits after each colon. Whether there is
    one, and what follows. -/
def takeSixties : Nat → List Char → Bool × List Char
  | 0, cs => (false, cs)
  | fuel + 1, cs =>
    match cs with
    | ':' :: a :: b :: rest =>
      if '0' ≤ a ∧ a ≤ '5' ∧ b.isDigit then (true, (takeSixties fuel rest).2)
      else if a.isDigit then (true, (takeSixties fuel (b :: rest)).2)
      else (false, cs)
    | ':' :: a :: [] => if a.isDigit then (true, []) else (false, cs)
    | _ => (false, cs)

/-- The text after the digits and underscores. -/
def afterDigits (cs : List Char) : List Char :=
  cs.dropWhile fun c => c.isDigit || c == '_'

/-- Whether a text has the form of a whole number: in base two, eight, ten, sixteen or sixty. -/
def looksInt (s : String) : Bool :=
  let cs := unsigned s.toList
  let digits (p : Char → Bool) (ds : List Char) : Bool :=
    !ds.isEmpty && ds.all fun c => p c || c == '_'
  match cs with
  | '0' :: 'b' :: rest => digits (fun c => c == '0' || c == '1') rest
  | '0' :: 'x' :: rest => digits (fun c => (Text.hexValue? c).isSome) rest
  | '0' :: rest => rest.isEmpty || digits (fun c => '0' ≤ c && c ≤ '7') rest
  | c :: rest =>
    if c.isDigit then
      let after := afterDigits rest
      after.isEmpty || takeSixties after.length after == (true, [])
    else false
  | [] => false

/-- Whether a text is the exponent of a number, with its sign, or nothing. -/
def looksExponent : List Char → Bool
  | [] => true
  | e :: sign :: digits =>
    (e == 'e' || e == 'E') && (sign == '+' || sign == '-') && !digits.isEmpty &&
      digits.all Char.isDigit
  | _ => false

/-- Whether a text has the form of a number with a point. -/
def looksFloat (s : String) : Bool :=
  let whole := s.toList
  let cs := unsigned whole
  match cs with
  | '.' :: c :: rest =>
    if c.isDigit then decide (cs = whole) && looksExponent (afterDigits rest)
    else
      let word := String.ofList (c :: rest)
      ["inf", "Inf", "INF"].contains word ||
        (decide (cs = whole) && ["nan", "NaN", "NAN"].contains word)
  | c :: rest =>
    if c.isDigit then
      match afterDigits rest with
      | '.' :: after => looksExponent (afterDigits after)
      | after =>
        match takeSixties after.length after with
        | (true, '.' :: after) => (afterDigits after).isEmpty
        | _ => false
    else false
  | [] => false

/-- The parts of a date, and of a time with it, as they are written. -/
structure Stamp where
  year : Nat
  month : Nat
  day : Nat
  /-- Hour, minute, second, and the digits of its fraction. -/
  clock : Option (Nat × Nat × Nat × List Char) := none
  /-- The distance from universal time: its sign, hours and minutes. -/
  zone : Option (Bool × Nat × Nat) := none
  /-- Whether month and day have two digits each. -/
  full : Bool
  deriving Repr

namespace Stamp

/-- Takes a number of `least` to `most` digits. -/
def takeNumber (least most : Nat) (cs : List Char) : Option (Nat × List Char) :=
  let digits := (cs.takeWhile Char.isDigit).take most
  if least ≤ digits.length then some ((Text.ofRadix? 10 digits).getD 0, cs.drop digits.length)
  else none

/-- Takes a character. -/
def takeChar (c : Char) (cs : List Char) : Option (List Char) :=
  if cs.head? = some c then some cs.tail else none

/-- Reads the distance from universal time at the end of a time. -/
def readZone (cs : List Char) : Option (Option (Bool × Nat × Nat)) := do
  if cs.isEmpty then return none
  let cs := cs.dropWhile fun c => c == ' ' || c == '\t'
  match cs with
  | ['Z'] => return some (false, 0, 0)
  | sign :: rest =>
    if sign ≠ '+' ∧ sign ≠ '-' then none
    let (hours, rest) ← takeNumber 1 2 rest
    match rest with
    | [] => return some (sign == '-', hours, 0)
    | ':' :: rest =>
      let (minutes, rest) ← takeNumber 2 2 rest
      if rest.isEmpty then return some (sign == '-', hours, minutes) else none
    | _ => none
  | [] => none

/-- Reads a date, and a time if one follows. -/
def read? (s : String) : Option Stamp := do
  let (year, rest) ← takeNumber 4 4 s.toList
  let date ← takeChar '-' rest
  let (month, rest) ← takeNumber 1 2 date
  let monthDigits := date.length - rest.length
  let rest ← takeChar '-' rest
  let dayStart := rest.length
  let (day, rest) ← takeNumber 1 2 rest
  let full := monthDigits == 2 && dayStart - rest.length == 2
  match rest with
  | [] => return { year, month, day, full }
  | c :: cs =>
    let blanks := fun c => c == ' ' || c == '\t'
    let rest ← if c = 'T' ∨ c = 't' then some cs
      else if blanks c then some (cs.dropWhile blanks) else none
    let (hour, rest) ← takeNumber 1 2 rest
    let (minute, rest) ← takeNumber 2 2 (← takeChar ':' rest)
    let (second, rest) ← takeNumber 2 2 (← takeChar ':' rest)
    let (fraction, rest) := match rest with
      | '.' :: rest => rest.span Char.isDigit
      | _ => ([], rest)
    let zone ← readZone rest
    return { year, month, day, clock := some (hour, minute, second, fraction), zone, full }

/-- The number of days in a month. -/
def monthLength (year month : Nat) : Nat :=
  if month = 2 then
    if (year % 4 = 0 ∧ year % 100 ≠ 0) ∨ year % 400 = 0 then 29 else 28
  else if [4, 6, 9, 11].contains month then 30
  else 31

/-- Refuses a value outside of its range. -/
def refuseUnless (ok : Bool) (why : String) : Except Fault Unit :=
  if ok then .ok () else .error (.badValue why)

/-- The day or moment of the calendar. -/
def toValue (s : Stamp) : Except Fault Value := do
  let zone ← match s.zone with
    | none => pure none
    | some (west, hours, minutes) =>
      let seconds : Int := hours * 3600 + minutes * 60
      let offset := if west then -seconds else seconds
      refuseUnless (seconds < 86400) ("offset must be a timedelta strictly between " ++
        "-timedelta(hours=24) and timedelta(hours=24), not " ++ delta offset)
      pure (some offset)
  refuseUnless (1 ≤ s.year) ("year " ++ toString s.year ++ " is out of range")
  refuseUnless (1 ≤ s.month ∧ s.month ≤ 12) "month must be in 1..12"
  refuseUnless (1 ≤ s.day ∧ s.day ≤ monthLength s.year s.month) "day is out of range for month"
  let date : Date := ⟨s.year, s.month, s.day⟩
  match s.clock with
  | none => return .date date
  | some (hour, minute, second, fraction) =>
    refuseUnless (hour ≤ 23) "hour must be in 0..23"
    refuseUnless (minute ≤ 59) "minute must be in 0..59"
    refuseUnless (second ≤ 59) "second must be in 0..59"
    let micros := (fraction ++ List.replicate 6 '0').take 6
    let time : Time := ⟨hour, minute, second, (Text.ofRadix? 10 micros).getD 0⟩
    return .moment ⟨date, time, zone⟩
where
  /-- The expression for a distance in time. -/
  delta (offset : Int) : String :=
    let days := offset.fdiv 86400
    let seconds := offset.fmod 86400
    "datetime.timedelta(" ++ ", ".intercalate (["days=" ++ toString days] ++
      if seconds = 0 then [] else ["seconds=" ++ toString seconds]) ++ ")"

end Stamp

/-- Whether a text has the form of a date, or of a date with a time. -/
def looksTimestamp (s : String) : Bool :=
  (Stamp.read? s).any fun t => t.clock.isSome || t.full

/-- The kind that the text of a plain scalar looks like. -/
def impliedKind (s : String) : Kind :=
  if looksNull s then .null
  else if looksBool s then .bool
  else if looksFloat s then .float
  else if looksInt s then .int
  else if s = "<<" then .merge
  else if s = "=" then .value
  else if looksTimestamp s then .timestamp
  else .str

/-! ## Values -/

/-- The text without underscores. -/
def withoutUnderscores (s : String) : List Char :=
  s.toList.filter (· != '_')

/-- Splits a text at its colons. -/
def parts (cs : List Char) : List String :=
  (String.ofList cs).splitOn ":"

/-- Reads a whole number of base two, eight or sixteen. A text that is no number is shown quoted, up
    to 200 characters of it. -/
def readRadix (base : Nat) (cs : List Char) : Except Fault Int :=
  match Text.integerIn? base cs with
  | some n => .ok n
  | none =>
    let shown := String.ofList ((Text.quoted (.ofList cs)).toList.take 200)
    .error (.badValue ("invalid literal for int() with base " ++ toString base ++ ": " ++ shown))

/-- Reads a whole number of base ten. -/
def readTen (s : String) : Except Fault Int :=
  (Text.readInteger s).mapError fun e => .badValue e.message

/-- Reads a whole number. -/
def readInt (s : String) : Except Fault Int := do
  let cs := withoutUnderscores s
  let sign : Int := if cs.head? = some '-' then -1 else 1
  if cs.isEmpty then .error .noSuchPlace
  let n ← match unsigned cs with
    | [] => .error .noSuchPlace
    | ['0'] => pure 0
    | '0' :: 'b' :: rest => readRadix 2 rest
    | '0' :: 'x' :: rest => readRadix 16 rest
    | '0' :: rest => readRadix 8 ('0' :: rest)
    | cs =>
      if cs.contains ':' then
        (parts cs).foldlM (fun n part => return n * 60 + (← readTen part)) 0
      else readTen (.ofList cs)
  return sign * n

/-- Reads a number of the binary format. -/
def readFloat (s : String) : Except Fault Binary := do
  let cs := (withoutUnderscores s).map Char.toLower
  if cs.isEmpty then .error .noSuchPlace
  let negative := cs.head? = some '-'
  let read (s : String) : Except Fault Binary :=
    match Binary.ofText? s with
    | some x => .ok x
    | none => .error (.badValue ("could not convert string to float: " ++ Text.quoted s))
  let cs := unsigned cs
  let x ← match String.ofList cs with
    | ".inf" => pure (.infinite false)
    | ".nan" => pure .nan
    | s =>
      if cs.contains ':' then do
        let digits ← (parts cs).mapM read
        let step (acc : Binary × Int) (digit : Binary) : Binary × Int :=
          (acc.1.add (digit.mul (.ofInt acc.2)), acc.2 * 60)
        pure (digits.reverse.foldl step (.zero, 1)).1
      else read s
  return if negative then x.neg else x

/-- Reads a scalar as a value of a kind. -/
def readScalar (kind : Kind) (s : String) : Except Fault Value :=
  match kind with
  | .null => .ok .null
  | .bool =>
    match truth? (String.ofList (s.toList.map Char.toLower)) with
    | some b => .ok (.bool b)
    | none => .error (.noSuchKey s)
  | .int => (readInt s).map .int
  | .float => (readFloat s).map .float
  | .binary =>
    if s.toList.all (·.toNat < 0x80) then
      match Text.decodeBase64? s.toList with
      | some bytes => .ok (.bytes bytes)
      | none => refuse "failed to decode base64 data"
    else refuse "failed to convert base64 data into ascii"
  | .timestamp =>
    match Stamp.read? s with
    | some stamp => stamp.toValue
    | none => .error .noSuchAttribute
  | .str => .ok (.text s)
  | .merge | .value => refuse "could not determine a constructor for the tag"

end Manuscript.Yaml
