import Manuscript.Number
import Manuscript.Text.Quoted

/-!
# Values

What configuration files and front matter hold: scalars, sequences and mappings of any depth. A
mapping keeps the order in which its keys first appeared; a later entry for a key that is there
already replaces the value and keeps the place (`Value.put`).
-/

namespace Manuscript

/-- A day of the calendar. -/
structure Date where
  year : Nat
  month : Nat
  day : Nat
  deriving DecidableEq, Repr, Inhabited

/-- A time of day. -/
structure Time where
  hour : Nat
  minute : Nat
  second : Nat
  microsecond : Nat := 0
  deriving DecidableEq, Repr, Inhabited

/-- A date and a time, with the distance from universal time in seconds if it is known. -/
structure Moment where
  date : Date
  time : Time
  offset : Option Int := none
  deriving DecidableEq, Repr, Inhabited

/-- A scalar, sequence or mapping. -/
inductive Value
  | null
  | bool (b : Bool)
  | number (n : Number)
  | text (s : String)
  | date (d : Date)
  | time (t : Time)
  | moment (m : Moment)
  | bytes (bs : List UInt8)
  | list (xs : List Value)
  | set (xs : List Value)
  | map (entries : List (Value × Value))
  deriving Repr, Inhabited

namespace Value

/-- A whole number as a value. -/
abbrev int (n : Int) : Value := .number (.whole n)

/-- A floating-point number as a value. -/
abbrev float (x : Binary) : Value := .number (.float x)

/-- What kind of value it is, in the word that messages use. -/
def kindName : Value → String
  | null => "NoneType"
  | bool _ => "bool"
  | number (.whole _) => "int"
  | number (.float _) => "float"
  | text _ => "str"
  | date _ => "date"
  | time _ => "time"
  | moment _ => "datetime"
  | bytes _ => "bytes"
  | list _ => "list"
  | set _ => "set"
  | map _ => "dict"

/-- Whether a value counts as given: neither absent nor false, zero or empty. -/
def isTruthy : Value → Bool
  | null => false
  | bool b => b
  | number (.whole n) => n != 0
  | number (.float x) => !x.isZero
  | text s => !s.isEmpty
  | date _ | time _ | moment _ => true
  | bytes bs => !bs.isEmpty
  | list xs | set xs => !xs.isEmpty
  | map es => !es.isEmpty

/-- The whole number that a truth value stands for. -/
def ofBool (b : Bool) : Int := if b then 1 else 0

/-- Whether two numbers have the same value, whatever their kinds. -/
def sameNumber : Number → Number → Bool
  | .whole a, .whole b => a == b
  | .whole a, .float y => y.equalsInt a
  | .float x, .whole b => x.equalsInt b
  | .float x, .float y => x.same y

mutual

/-- Whether two values are equal. Numbers are compared by value, and a truth value is the number one
    or zero. The order of sets and of mappings does not matter. -/
def same : Value → Value → Bool
  | null, null => true
  | bool a, bool b => a == b
  | bool a, number n | number n, bool a => sameNumber (.whole (ofBool a)) n
  | number a, number b => sameNumber a b
  | text a, text b => a == b
  | date a, date b => decide (a = b)
  | time a, time b => decide (a = b)
  | moment a, moment b => decide (a = b)
  | bytes a, bytes b => a == b
  | list a, list b => sameList a b
  | set a, set b => a.length == b.length && sameMembers a b
  | map a, map b => a.length == b.length && sameEntries a b
  | _, _ => false
termination_by structural x => x

/-- Whether two sequences are equal place by place. -/
def sameList : List Value → List Value → Bool
  | [], [] => true
  | x :: xs, y :: ys => same x y && sameList xs ys
  | _, _ => false
termination_by structural xs => xs

/-- Whether each member of a set is equal to one of another. -/
def sameMembers : List Value → List Value → Bool
  | [], _ => true
  | x :: xs, ys => (ys.any fun y => same x y) && sameMembers xs ys
termination_by structural xs => xs

/-- Whether another mapping has each key of a mapping, with an equal value. -/
def sameEntries : List (Value × Value) → List (Value × Value) → Bool
  | [], _ => true
  | (k, v) :: r, es =>
    ((es.find? fun e => same k e.1).any fun e => same v e.2) && sameEntries r es
termination_by structural xs => xs

end

/-- Sets the value of a key: in its place if the key is there, at the end if not. -/
def put (entries : List (Value × Value)) (key value : Value) : List (Value × Value) :=
  match entries with
  | [] => [(key, value)]
  | (k, v) :: rest => if same k key then (k, value) :: rest else (k, v) :: put rest key value

/-- The value of a text key. -/
def lookup (entries : List (Value × Value)) (key : String) : Option Value :=
  (entries.find? fun e => match e.1 with | text s => s == key | _ => false).map (·.2)

/-- Whether a value may be the key of a mapping: sequences and mappings may not. -/
def isKey : Value → Bool
  | list _ | set _ | map _ => false
  | _ => true

/-! ## Text -/

/-- A number in at least `width` decimal places. -/
def padded (width n : Nat) : String :=
  let ds := toString n
  String.ofList (List.replicate (width - ds.length) '0') ++ ds

/-- A day as year, month and day. -/
def dateText (d : Date) : String :=
  padded 4 d.year ++ "-" ++ padded 2 d.month ++ "-" ++ padded 2 d.day

/-- A time as hours, minutes and seconds, and microseconds if there are any. -/
def timeText (t : Time) : String :=
  padded 2 t.hour ++ ":" ++ padded 2 t.minute ++ ":" ++ padded 2 t.second ++
    if t.microsecond = 0 then "" else "." ++ padded 6 t.microsecond

/-- A distance from universal time. -/
def offsetText (seconds : Int) : String :=
  let n := seconds.natAbs
  (if seconds < 0 then "-" else "+") ++ padded 2 (n / 3600) ++ ":" ++ padded 2 (n / 60 % 60) ++
    if n % 60 = 0 then "" else ":" ++ padded 2 (n % 60)

/-- A date and time, with the distance from universal time if it is known. -/
def momentText (m : Moment) : String :=
  dateText m.date ++ " " ++ timeText m.time ++ (m.offset.map offsetText).getD ""

/-- The arguments that build a time again: seconds and microseconds are left out when they are
    zero. -/
def timeArguments (t : Time) : List String :=
  let tail := if t.microsecond ≠ 0 then [toString t.second, toString t.microsecond]
    else if t.second ≠ 0 then [toString t.second] else []
  [toString t.hour, toString t.minute] ++ tail

/-- The expression that builds a day again. -/
def dateArguments (d : Date) : List String :=
  [toString d.year, toString d.month, toString d.day]

/-- The expression for a distance from universal time. -/
def offsetExpression (seconds : Int) : String :=
  if seconds = 0 then "datetime.timezone.utc"
  else
    let days := seconds.fdiv 86400
    let rest := seconds.fmod 86400
    let parts := (if days = 0 then [] else ["days=" ++ toString days]) ++
      (if rest = 0 then [] else ["seconds=" ++ toString rest])
    "datetime.timezone(datetime.timedelta(" ++ ", ".intercalate parts ++ "))"

/-- A byte between quotes. -/
def quotedByte (quote : Char) (b : UInt8) : List Char :=
  let c := Char.ofNat b.toNat
  if c = '\n' then ['\\', 'n'] else if c = '\r' then ['\\', 'r'] else if c = '\t' then ['\\', 't']
  else if c = '\\' ∨ c = quote then ['\\', c]
  else if 0x20 ≤ b.toNat ∧ b.toNat < 0x7f then [c]
  else '\\' :: 'x' :: Text.hexDigits 2 b.toNat

/-- Bytes between quotes: single ones, unless there are such among the bytes and no double ones. -/
def quotedBytes (bs : List UInt8) : String :=
  let quote := if bs.contains 0x27 && !bs.contains 0x22 then '\x22' else '\x27'
  "b" ++ String.ofList (quote :: bs.flatMap (quotedByte quote) ++ [quote])

mutual

/-- How a value is shown inside another one: text is quoted. -/
def quoted : Value → String
  | null => "None"
  | bool b => if b then "True" else "False"
  | number n => n.text
  | text s => Text.quoted s
  | date d => "datetime.date(" ++ ", ".intercalate (dateArguments d) ++ ")"
  | time t => "datetime.time(" ++ ", ".intercalate (timeArguments t) ++ ")"
  | moment m =>
    let zone := m.offset.map fun o => "tzinfo=" ++ offsetExpression o
    "datetime.datetime(" ++
      ", ".intercalate (dateArguments m.date ++ timeArguments m.time ++ zone.toList) ++ ")"
  | bytes bs => quotedBytes bs
  | list xs => "[" ++ ", ".intercalate (quotedList xs) ++ "]"
  | set xs => if xs.isEmpty then "set()" else "\x7b" ++ ", ".intercalate (quotedList xs) ++ "\x7d"
  | map es => "\x7b" ++ ", ".intercalate (quotedEntries es) ++ "\x7d"

/-- The members of a sequence, each as it is shown inside it. -/
def quotedList : List Value → List String
  | [] => []
  | x :: xs => quoted x :: quotedList xs

/-- The entries of a mapping, each as it is shown inside it. -/
def quotedEntries : List (Value × Value) → List String
  | [] => []
  | (k, v) :: r => (quoted k ++ ": " ++ quoted v) :: quotedEntries r

end

/-- The text of a value: text as it is, dates in their ISO form, and all else as inside another
    one. -/
def toText : Value → String
  | text s => s
  | date d => dateText d
  | time t => timeText t
  | moment m => momentText m
  | v => quoted v

end Value

/-- The properties of a document or of one of its nodes, by name, in order. -/
abbrev Metadata := List (String × Value)

namespace Metadata

/-- The property of a name. -/
def find? (m : Metadata) (name : String) : Option Value :=
  (List.find? (fun e => e.1 == name) m).map (·.2)

/-- Sets a property: in its place if the name is there, at the end if not. -/
def put (m : Metadata) (name : String) (value : Value) : Metadata :=
  match m with
  | [] => [(name, value)]
  | (n, v) :: rest => if n = name then (n, value) :: rest else (n, v) :: put rest name value

/-- The properties of `m` overridden and continued by those of `new`. -/
def update (m new : Metadata) : Metadata :=
  new.foldl (fun acc e => acc.put e.1 e.2) m

/-- Whether properties are equal. Their order does not matter. -/
def same (m n : Metadata) : Bool :=
  m.length == n.length && m.all fun e => (n.find? e.1).any e.2.same

end Metadata

end Manuscript
