import Manuscript.Error.Fault
import Manuscript.Text.Integer
import Manuscript.Version.Range

/-!
# Schemes of versions

How versions and ranges are read, and when a version is in a range, is for a scheme to say
(`Scheme`). What is built on a scheme works with any of them, however it fails: a text may be no
version or no range of the scheme, and all other faults are the scheme's own. The standard scheme
fails at numbers that are too long.
-/

namespace Manuscript

/-- A scheme of versions. -/
structure Scheme where
  /-- The versions of the scheme. -/
  Version : Type
  /-- The ranges of the scheme. -/
  Range : Type
  /-- Reads a version. There is none if the text is no version. -/
  version : String → Except Fault (Option Version)
  /-- Reads a range. There is none if the text is no range. -/
  range : String → Except Fault (Option Range)
  /-- Whether a version is in a range. -/
  contains : Range → Version → Except Fault Bool

/-- Whether a version is in a range, both of them given as texts. This is not known if one of them
    cannot be read. -/
def Scheme.isWithin? (S : Scheme) (version range : String) : Except Fault (Option Bool) := do
  match ← S.version version with
  | none => return none
  | some v =>
    match ← S.range range with
    | none => return none
    | some r => return some (← S.contains r v)

namespace Version

/-- The length of the first number in the text of a version that is too long to be read. In a local
    name, digits with letters beside them are no number. -/
def tooLong? (s : String) : Option Nat :=
  let (front, name) := s.toList.span (· != '+')
  let runs := front.splitBy fun a b => a.isDigit == b.isDigit
  let words := name.splitBy fun a b => a.isAlphanum == b.isAlphanum
  let numbers := (runs ++ words).filter (·.all Char.isDigit)
  (numbers.find? (Text.maxDigits < ·.length)).map List.length

/-- The fault of a number that is too long. -/
def longNumber (digits : Nat) : Fault :=
  .badValue (Text.IntegerError.tooLong digits).message

/-- Whether all of some clauses hold of a version, each of them with the length of a number in it
    that is too long. It is only met when the version is compared with that clause. -/
def allHold (v : Version) : List (Clause × Option Nat) → Except Fault Bool
  | [] => .ok true
  | (.version .., some n) :: _ | (.family .., some n) :: _ => .error (longNumber n)
  | (c, _) :: rest => if c.holds v then allHold v rest else .ok false

end Version

/-- The scheme of versions as numbers with points between them. -/
def Scheme.standard : Scheme where
  Version := Manuscript.Version
  Range := List (Version.Clause × Option Nat)
  version s :=
    match Version.ofText? s, Version.tooLong? s with
    | some _, some n => .error (Version.longNumber n)
    | v, _ => .ok v
  range s := .ok <| (Version.clauseTexts s).mapM fun t =>
    (Version.Clause.ofText? t).map (·, Version.tooLong? t)
  contains clauses v := Version.allHold v clauses

end Manuscript
