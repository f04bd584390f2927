import Manuscript.Text.Blank
import Manuscript.Text.Hex

/-!
# Versions

The version of a package: numbers with points between them, which may be marked as one before or
after a release, or as one in development. Versions are ordered (`compare`): numbers that are not
given are zero, what comes before a release is less than it, and what comes after it is greater.
-/

namespace Manuscript

/-- The stages before a release, in their order. -/
inductive Version.Stage
  | alpha
  | beta
  | candidate
  deriving DecidableEq, Repr, Inhabited

/-- A part of the local name of a version. -/
inductive Version.LocalPart
  | number (n : Nat)
  | word (s : String)
  deriving DecidableEq, Repr, Inhabited

/-- The version of a package. -/
structure Version where
  epoch : Nat := 0
  release : List Nat
  pre : Option (Version.Stage × Nat) := none
  post : Option Nat := none
  dev : Option Nat := none
  localParts : List Version.LocalPart := []
  deriving DecidableEq, Repr, Inhabited

namespace Version

/-! ## Reading -/

/-- Whether a character may stand between the parts of a version. -/
def isSeparator (c : Char) : Bool :=
  c == '-' || c == '_' || c == '.'

/-- The text after a separator, if there is one. -/
def skipSeparator : List Char → List Char
  | c :: rest => if isSeparator c then rest else c :: rest
  | [] => []

/-- Takes a number. -/
def takeNumber (cs : List Char) : Option (Nat × List Char) :=
  let (ds, rest) := cs.span Char.isDigit
  if ds.isEmpty then none else (Text.ofRadix? 10 ds).map (·, rest)

/-- Takes numbers with points between them. -/
def takeRelease : Nat → List Char → Option (List Nat × List Char)
  | 0, _ => none
  | fuel + 1, cs => do
    let (n, rest) ← takeNumber cs
    match rest with
    | '.' :: after =>
      match takeRelease fuel after with
      | some (ns, after) => return (n :: ns, after)
      | none => return ([n], rest)
    | _ => return ([n], rest)

/-- Takes the first of some words with a number after it, which is zero if it is not given.
    Separators may stand before the word and before the number. -/
def takeLabelled (labels : List (String × α)) (cs : List Char) : Option (α × Nat × List Char) := do
  let body := skipSeparator cs
  let (word, a) ← labels.find? fun l => l.1.toList.isPrefixOf body
  let rest := skipSeparator (body.drop word.length)
  match takeNumber rest with
  | some (n, rest) => return (a, n, rest)
  | none => return (a, 0, rest)

/-- The words for the stages before a release. -/
def stageWords : List (String × Stage) :=
  [("alpha", .alpha), ("a", .alpha), ("beta", .beta), ("b", .beta), ("preview", .candidate),
    ("pre", .candidate), ("c", .candidate), ("rc", .candidate)]

/-- Takes the mark of a stage before a release, if there is one. -/
def takePre (cs : List Char) : Option (Stage × Nat) × List Char :=
  match takeLabelled stageWords cs with
  | some (stage, n, rest) => (some (stage, n), rest)
  | none => (none, cs)

/-- Takes the mark of what comes after a release, if there is one: a word, or a dash and a
    number. -/
def takePost (cs : List Char) : Option Nat × List Char :=
  let dashed := match cs with
    | '-' :: rest => takeNumber rest
    | _ => none
  match dashed, takeLabelled [("post", ()), ("rev", ()), ("r", ())] cs with
  | some (n, rest), _ => (some n, rest)
  | none, some (_, n, rest) => (some n, rest)
  | none, none => (none, cs)

/-- Takes the mark of a version in development, if there is one. -/
def takeDev (cs : List Char) : Option Nat × List Char :=
  match takeLabelled [("dev", ())] cs with
  | some (_, n, rest) => (some n, rest)
  | none => (none, cs)

/-- A part of a local name. -/
def LocalPart.ofText (cs : List Char) : LocalPart :=
  if cs.all Char.isDigit then .number ((Text.ofRadix? 10 cs).getD 0) else .word (.ofList cs)

/-- Reads a local name: words and numbers with separators between them. -/
def readLocal? (cs : List Char) : Option (List LocalPart) :=
  let parts := (cs.splitBy fun a b => isSeparator a == isSeparator b)
  let words := parts.filter fun p => !p.any isSeparator
  let gaps := parts.filter fun p => p.any isSeparator
  let ok := words.length = gaps.length + 1 ∧ gaps.all (·.length == 1) ∧
    words.all fun w => w.all Char.isAlphanum
  if ok ∧ ¬ cs.head?.any isSeparator then some (words.map LocalPart.ofText) else none

/-- Takes a version without a local name from the front of a text in lower case. -/
def take? (cs : List Char) : Option (Version × List Char) := do
  let cs := match cs with
    | 'v' :: rest => rest
    | cs => cs
  let (epoch, cs) := match takeNumber cs with
    | some (n, '!' :: rest) => (n, rest)
    | _ => (0, cs)
  let (release, cs) ← takeRelease (cs.length + 1) cs
  let (pre, cs) := takePre cs
  let (post, cs) := takePost cs
  let (dev, cs) := takeDev cs
  return ({ epoch, release, pre, post, dev }, cs)

/-- The version of a text. Its letters may be of either case, and blanks may surround it. -/
def ofText? (s : String) : Option Version := do
  let (v, rest) ← take? ((Text.strip s.toList).map Char.toLower)
  match rest with
  | [] => return v
  | '+' :: name => return { v with localParts := ← readLocal? name }
  | _ => none

/-! ## Order -/

/-- Whether the version comes before a release. -/
def isPre (v : Version) : Bool :=
  v.pre.isSome || v.dev.isSome

/-- Whether the version comes after a release. -/
def isPost (v : Version) : Bool :=
  v.post.isSome

/-- The version without its local name. -/
def unnamed (v : Version) : Version :=
  { v with localParts := [] }

/-- The release that the version belongs to. -/
def base (v : Version) : Version where
  epoch := v.epoch
  release := v.release

/-- Where a version stands among those of one release by its stage. -/
def stageKey (v : Version) : Nat × Nat :=
  match v.pre with
  | some (.alpha, n) => (1, n)
  | some (.beta, n) => (2, n)
  | some (.candidate, n) => (3, n)
  | none => if v.post.isNone ∧ v.dev.isSome then (0, 0) else (4, 0)

/-- Compares two lists of numbers, the shorter one filled up with zeros. -/
def compareNumbers : List Nat → List Nat → Ordering
  | [], [] => .eq
  | [], b :: bs => (compare 0 b).then (compareNumbers [] bs)
  | a :: as, [] => (compare a 0).then (compareNumbers as [])
  | a :: as, b :: bs => (compare a b).then (compareNumbers as bs)

/-- Compares two parts of local names: words are less than numbers. -/
def LocalPart.compare : LocalPart → LocalPart → Ordering
  | number a, number b => Ord.compare a b
  | word a, word b => Ord.compare a b
  | word _, number _ => .lt
  | number _, word _ => .gt

/-- Compares two local names part by part; what is left over is greater than nothing. -/
def compareLocal : List LocalPart → List LocalPart → Ordering
  | [], [] => .eq
  | [], _ :: _ => .lt
  | _ :: _, [] => .gt
  | a :: as, b :: bs => (a.compare b).then (compareLocal as bs)

/-- Compares two pairs of numbers. -/
def comparePair (a b : Nat × Nat) : Ordering :=
  (Ord.compare a.1 b.1).then (Ord.compare a.2 b.2)

/-- The order of versions. -/
def compare (v w : Version) : Ordering :=
  let after (x : Version) : Nat := (x.post.map (· + 1)).getD 0
  let dev (x : Version) : Nat × Nat := (x.dev.map (0, ·)).getD (1, 0)
  (Ord.compare v.epoch w.epoch).then <| (compareNumbers v.release w.release).then <|
    (comparePair v.stageKey w.stageKey).then <| (Ord.compare (after v) (after w)).then <|
      (comparePair (dev v) (dev w)).then (compareLocal v.localParts w.localParts)

/-! ## Text -/

/-- The word for a stage. -/
def Stage.text : Stage → String
  | alpha => "a"
  | beta => "b"
  | candidate => "rc"

/-- The text of a part of a local name. -/
def LocalPart.text : LocalPart → String
  | number n => toString n
  | word s => s

/-- The text of a version. -/
def text (v : Version) : String :=
  let dotted (ss : List String) : String := ".".intercalate ss
  (if v.epoch = 0 then "" else toString v.epoch ++ "!") ++ dotted (v.release.map toString) ++
    ((v.pre.map fun (s, n) => s.text ++ toString n).getD "") ++
    ((v.post.map fun n => ".post" ++ toString n).getD "") ++
    ((v.dev.map fun n => ".dev" ++ toString n).getD "") ++
    if v.localParts.isEmpty then "" else "+" ++ dotted (v.localParts.map LocalPart.text)

end Version

end Manuscript
