import Manuscript.Version

/-!
# Ranges of versions

A range is given by clauses with commas between them, each of which compares with a version; a
version is in the range when all of them hold. A comparison with a release leaves out what comes
before or after that release, and one for equality leaves local names out of account unless it gives
one.
-/

namespace Manuscript.Version

/-- The comparisons of a clause. -/
inductive Comparison
  /-- At least the version, and of the same release up to the last number but one. -/
  | compatible
  | equal
  | unequal
  | atMost
  | atLeast
  | less
  | greater
  deriving DecidableEq, Repr

/-- A clause of a range. -/
inductive Clause
  | version (op : Comparison) (v : Version)
  /-- The release begins with some numbers, or does not. -/
  | family (holds : Bool) (epoch : Nat) (release : List Nat)
  /-- The version has the same text. -/
  | text (s : String)
  deriving Repr

/-- The signs of comparisons, longer ones before those that they begin with. The first one compares
    texts. -/
def signs : List (String × Option Comparison) :=
  [("===", none), ("~=", some .compatible), ("==", some .equal), ("!=", some .unequal),
    ("<=", some .atMost), (">=", some .atLeast), ("<", some .less), (">", some .greater)]

/-- The clause of a text. -/
def Clause.ofText? (s : String) : Option Clause := do
  let cs := Text.strip s.toList
  let (sign, op) ← signs.find? fun g => g.1.toList.isPrefixOf cs
  let body := (cs.drop sign.length).dropWhile Text.isBlank
  match op with
  | none =>
    if body.any fun c => Text.isBlank c || c == ';' || c == ')' then none
    else some (.text (.ofList body))
  | some op =>
    let (v, rest) ← take? (body.map Char.toLower)
    match rest with
    | [] => if op = .compatible ∧ v.release.length < 2 then none else some (.version op v)
    | ['.', '*'] =>
      if (op = .equal ∨ op = .unequal) ∧ v.pre.isNone ∧ v.post.isNone ∧ v.dev.isNone then
        some (.family (op = .equal) v.epoch v.release)
      else none
    | '+' :: name =>
      if op = .equal ∨ op = .unequal then
        some (.version op { v with localParts := ← readLocal? name })
      else none
    | _ => none

/-- Whether the release of a version begins with some numbers. -/
def inFamily (v : Version) (epoch : Nat) (release : List Nat) : Bool :=
  let padded := v.release ++ List.replicate (release.length - v.release.length) 0
  v.epoch == epoch && padded.take release.length == release

/-- Whether a version compares with another one as asked for. -/
def satisfies (v : Version) (op : Comparison) (w : Version) : Bool :=
  let sameBase := v.base.compare w.base == .eq
  let comparable := if w.localParts.isEmpty then v.unnamed else v
  match op with
  | .equal => comparable.compare w == .eq
  | .unequal => comparable.compare w != .eq
  | .atMost => v.unnamed.compare w != .gt
  | .atLeast => v.unnamed.compare w != .lt
  | .compatible => v.unnamed.compare w != .lt && v.inFamily w.epoch w.release.dropLast
  | .less => v.compare w == .lt && !(!w.isPre && v.isPre && sameBase)
  | .greater =>
    v.compare w == .gt && !(!w.isPost && v.isPost && sameBase) &&
      !(!v.localParts.isEmpty && sameBase)

/-- Whether a clause holds of a version. -/
def Clause.holds (c : Clause) (v : Version) : Bool :=
  match c with
  | version op w => v.satisfies op w
  | family yes epoch release => v.inFamily epoch release == yes
  | text s => v.text == String.ofList (s.toList.map Char.toLower)

/-- The texts of the clauses of a range. -/
def clauseTexts (s : String) : List String :=
  (s.splitOn ",").filter fun t => !(Text.strip t.toList).isEmpty

end Manuscript.Version
