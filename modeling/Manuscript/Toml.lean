import Manuscript.Toml.Scalar

/-!
# TOML

A text of TOML 1.0 is read as a table. What is defined once cannot be defined again: each key path
that is closed to later definitions carries a mark (`Mark`). A table that was opened by its header
is closed to other headers; arrays and tables that are written as values are closed to everything.
-/

namespace Manuscript.Toml

/-- A path of keys. -/
abbrev Key := List String

/-- Takes one part of a key. -/
def takeKeyPart (cs : List Char) : Except Fault (String × List Char) :=
  match cs with
  | [] => refuse "invalid initial character for a key part"
  | c :: _ =>
    if c = '\x22' ∨ c = '\x27' then takeText false cs
    else
      let (name, rest) := cs.span fun c => c.isAlphanum || c == '-' || c == '_'
      if name.isEmpty then refuse "invalid initial character for a key part"
      else .ok (.ofList name, rest)

/-- Takes a key: parts with points between them. -/
def takeKey : Nat → List Char → Except Fault (Key × List Char)
  | 0, _ => refuse "too many levels"
  | fuel + 1, cs => do
    let (part, rest) ← takeKeyPart cs
    match skipBlanks rest with
    | '.' :: rest =>
      let (parts, rest) ← takeKey fuel (skipBlanks rest)
      return (part :: parts, rest)
    | rest => return ([part], rest)

/-! ## Tables -/

/-- The entries of a table. -/
abbrev Entries := List (Value × Value)

/-- Changes the table at a path of keys, creating those that are not there. An array of tables
    stands for its last one, if `arrays`. None if something else is in the way. -/
def update (arrays : Bool) (f : Entries → Option Entries) : Key → Entries → Option Entries
  | [], es => f es
  | k :: ks, es =>
    match Value.lookup es k with
    | none => (update arrays f ks []).map fun t => Value.put es (.text k) (.map t)
    | some (.map t) => (update arrays f ks t).map fun t => Value.put es (.text k) (.map t)
    | some (.list xs) =>
      match arrays, xs.getLast? with
      | true, some (.map t) =>
        (update arrays f ks t).map fun t =>
          Value.put es (.text k) (.list (xs.dropLast ++ [.map t]))
      | _, _ => none
    | some _ => none

/-- Adds an entry that must not be there yet. -/
def addEntry (key : String) (v : Value) (es : Entries) : Option Entries :=
  if (Value.lookup es key).isSome then none else some (Value.put es (.text key) v)

/-- Adds a table to the array of tables of a key. -/
def addTable (key : String) (es : Entries) : Option Entries :=
  match Value.lookup es key with
  | none => some (Value.put es (.text key) (.list [.map []]))
  | some (.list xs) => some (Value.put es (.text key) (.list (xs ++ [.map []])))
  | some _ => none

/-- What a table is refused with when something else stands at its path. -/
def orRefuse (t : Option α) : Except Fault α :=
  match t with
  | some a => .ok a
  | none => refuse "cannot overwrite a value"

/-- The keys that are closed: to headers, or with all that is beneath them to everything. -/
structure Marks where
  opened : List Key := []
  sealed : List Key := []
  deriving Inhabited

namespace Marks

/-- Whether a key is closed to headers. -/
def isOpened (m : Marks) (key : Key) : Bool :=
  m.opened.contains key

/-- Whether a key is closed to everything. -/
def isSealed (m : Marks) (key : Key) : Bool :=
  m.sealed.any (·.isPrefixOf key)

/-- Takes the marks off a key and all that is beneath it. -/
def free (m : Marks) (key : Key) : Marks where
  opened := m.opened.filter fun k => !key.isPrefixOf k
  sealed := m.sealed.filter fun k => !key.isPrefixOf k

/-- Closes a key to headers. -/
def begin (m : Marks) (key : Key) : Marks :=
  { m with opened := key :: m.opened }

/-- Closes a key to everything. -/
def close (m : Marks) (key : Key) : Marks :=
  { m with sealed := key :: m.sealed }

end Marks

/-! ## Values -/

/-- The text after a comment, if there is one. -/
def skipComment (cs : List Char) : Except Fault (List Char) :=
  match cs with
  | '#' :: rest =>
    let comment := rest.takeWhile (· != '\n')
    if comment.all isPlainChar then .ok (rest.drop comment.length) else refuse "illegal character"
  | _ => .ok cs

/-- The text after white space and comments. -/
def skipFiller : Nat → List Char → Except Fault (List Char)
  | 0, cs => .ok cs
  | fuel + 1, cs =>
    match skipSpace cs with
    | '#' :: rest => do skipFiller fuel (← skipComment ('#' :: rest))
    | rest => .ok rest

/-- Whether a value is an array or a table. -/
def isNested : Value → Bool
  | .list _ | .map _ => true
  | _ => false

mutual

/-- Takes a value. -/
def takeValue : Nat → List Char → Except Fault (Value × List Char)
  | 0, _ => refuse "too many levels"
  | fuel + 1, cs =>
    match cs with
    | '\x22' :: _ | '\x27' :: _ => (takeText true cs).map fun (s, rest) => (.text s, rest)
    | 't' :: 'r' :: 'u' :: 'e' :: rest => .ok (.bool true, rest)
    | 'f' :: 'a' :: 'l' :: 's' :: 'e' :: rest => .ok (.bool false, rest)
    | '[' :: rest => do
      let (items, rest) ← takeItems fuel rest
      return (.list items, rest)
    | '\x7b' :: rest =>
      match skipBlanks rest with
      | '\x7d' :: rest => .ok (.map [], rest)
      | rest => do
        let (entries, rest) ← takeEntries fuel {} [] rest
        return (.map entries, rest)
    | _ => takeNumeric cs

/-- Takes the items of an array, and the bracket that closes it. A comma may follow the last one. -/
def takeItems : Nat → List Char → Except Fault (List Value × List Char)
  | 0, _ => refuse "too many levels"
  | fuel + 1, cs => do
    match ← skipFiller (cs.length + 1) cs with
    | ']' :: rest => return ([], rest)
    | cs =>
      let (v, rest) ← takeValue fuel cs
      match ← skipFiller (rest.length + 1) rest with
      | ']' :: rest => return ([v], rest)
      | ',' :: rest =>
        let (vs, rest) ← takeItems fuel rest
        return (v :: vs, rest)
      | _ => refuse "unclosed array"

/-- Takes a key and its value. -/
def takePair : Nat → List Char → Except Fault (Key × Value × List Char)
  | 0, _ => refuse "too many levels"
  | fuel + 1, cs => do
    let (key, rest) ← takeKey (cs.length + 1) cs
    match rest with
    | '=' :: rest =>
      let (v, rest) ← takeValue fuel (skipBlanks rest)
      return (key, v, rest)
    | _ => refuse "expected '=' after a key in a key/value pair"

/-- Takes the entries of a table that is written as a value, after others, and the bracket that
    closes it. -/
def takeEntries : Nat → Marks → Entries → List Char → Except Fault (Entries × List Char)
  | 0, _, _, _ => refuse "too many levels"
  | fuel + 1, marks, before, cs => do
    let (key, v, rest) ← takePair fuel cs
    if marks.isSealed key then refuse "cannot mutate immutable namespace"
    let entries ← orRefuse (update false (addEntry (key.getLastD "") v) key.dropLast before)
    match skipBlanks rest with
    | '\x7d' :: rest => return (entries, rest)
    | ',' :: rest =>
      let marks := if isNested v then marks.close key else marks
      takeEntries fuel marks entries (skipBlanks rest)
    | _ => refuse "unclosed inline table"

end

/-! ## Documents -/

/-- The state of reading a document: its table so far, the closed keys, those that the next header
    closes, and the key of the table that entries go into. -/
structure State where
  entries : Entries := []
  marks : Marks := {}
  pending : List Key := []
  header : Key := []
  deriving Inhabited

namespace State

/-- Adds an entry to the table of the last header. The tables on the way to it must not be those of
    headers, and cannot be from the next header on. -/
def add (s : State) (key : Key) (v : Value) : Except Fault State := do
  let inner := (List.range (key.length - 1)).map fun i => s.header ++ key.take (i + 1)
  if inner.any s.marks.isOpened then refuse "cannot redefine namespace"
  let parent := s.header ++ key.dropLast
  if s.marks.isSealed parent then refuse "cannot mutate immutable namespace"
  let entries ← orRefuse (update true (addEntry (key.getLastD "") v) parent s.entries)
  let marks := if isNested v then s.marks.close (s.header ++ key) else s.marks
  return { s with entries, marks, pending := inner ++ s.pending }

/-- Closes the keys that wait for a header. -/
def settle (s : State) : State :=
  { s with marks := { s.marks with opened := s.pending ++ s.marks.opened }, pending := [] }

/-- Opens the table of a header. -/
def openTable (s : State) (key : Key) : Except Fault State := do
  if s.marks.isOpened key || s.marks.isSealed key then refuse "cannot declare a table twice"
  let entries ← orRefuse (update true some key s.entries)
  return { s with entries, marks := s.marks.begin key, header := key }

/-- Opens a further table of an array of tables. -/
def openItem (s : State) (key : Key) : Except Fault State := do
  if s.marks.isSealed key then refuse "cannot mutate immutable namespace"
  let entries ← orRefuse (update true (addTable (key.getLastD "")) key.dropLast s.entries)
  return { s with entries, marks := (s.marks.free key).begin key, header := key }

/-- Takes one statement. -/
def step (s : State) (cs : List Char) : Except Fault (State × List Char) := do
  match cs with
  | '[' :: '[' :: rest =>
    let (key, rest) ← takeKey (rest.length + 1) (skipBlanks rest)
    match rest with
    | ']' :: ']' :: rest => return (← s.settle.openItem key, rest)
    | _ => refuse "expected ']]' at the end of an array declaration"
  | '[' :: rest =>
    let (key, rest) ← takeKey (rest.length + 1) (skipBlanks rest)
    match rest with
    | ']' :: rest => return (← s.settle.openTable key, rest)
    | _ => refuse "expected ']' at the end of a table declaration"
  | '#' :: _ => return (s, cs)
  | _ =>
    let (key, v, rest) ← takePair (2 * cs.length + 2) cs
    return (← s.add key v, rest)

/-- Takes the statements of a text, each on a line of its own. -/
def run : Nat → State → List Char → Except Fault State
  | 0, s, _ => .ok s
  | fuel + 1, s, cs =>
    match skipBlanks cs with
    | [] => .ok s
    | '\n' :: rest => run fuel s rest
    | cs => do
      let (s, rest) ← s.step cs
      match ← skipComment (skipBlanks rest) with
      | [] => return s
      | '\n' :: rest => run fuel s rest
      | _ => refuse "expected newline or end of document after a statement"

end State

/-- The text with a line feed for every pair of carriage return and line feed. -/
def unify : List Char → List Char
  | [] => []
  | '\r' :: '\n' :: rest => '\n' :: unify rest
  | c :: rest => c :: unify rest

/-- The table of a text. -/
def read (text : String) : Except Fault Value := do
  let cs := unify text.toList
  return .map (← State.run (cs.length + 1) {} cs).entries

end Manuscript.Toml
