import Manuscript.Error.Fault
import Manuscript.Number.Decimal
import Manuscript.Number

/-!
# Measures

Lengths are whole numbers of a small unit, of which an inch, a point and a twentieth of a point are
multiples. A document is written in twentieths and halves of a point, so a length is rounded when it
is written; each kind of length has a range in which it must lie.
-/

namespace Manuscript.Docx

/-- A length in the small unit. -/
abbrev Length := Int

namespace Length

/-- The number of small units in an inch. -/
def inch : Nat := 914400

/-- The number of small units in a point. -/
def point : Nat := 12700

/-- The number of small units in a twentieth of a point. -/
def twentieth : Nat := 635

/-- The whole number that is left when the fraction of a number is cut off. -/
def whole (x : Binary) : Except Fault Int :=
  match x with
  | .nan => .error (.badValue "not a number is no length")
  | .infinite _ => .error .overflow
  | x => .ok (x.truncate.getD 0)

/-- The nearest whole number, the even one of two. -/
def rounded (x : Binary) : Except Fault Int :=
  match x with
  | .nan => .error (.badValue "not a number is no length")
  | .infinite _ => .error .overflow
  | x => .ok (x.nearest.getD 0)

/-- The number of the binary format for a whole number, which may not be too large for it. -/
def binary (n : Int) : Except Fault Binary :=
  match Binary.ofInt n with
  | .infinite _ => .error .overflow
  | x => .ok x

/-- The length of a number of units, the fraction cut off. -/
def ofUnits (n : Number) (unit : Nat) : Except Fault Length :=
  match n with
  | .whole n => .ok (n * unit)
  | .float x => whole (x.mul (.ofInt unit))

/-- The length of a number of twentieths of a point. -/
def ofTwentieths (n : Int) : Length :=
  n * twentieth

/-- The units that a length may be written in, other than twentieths of a point, with the numbers of
    small units in them. -/
def units : List (String × Nat) :=
  [("mm", 36000), ("cm", 360000), ("in", inch), ("pt", point), ("pc", 12 * point),
    ("pi", 12 * point)]

/-- The length that a text stands for: a whole number of twentieths of a point, or a number with one
    of the other units. -/
def ofText (s : String) : Except Fault Length :=
  if s.toList.any fun c => c == 'i' || c == 'm' || c == 'p' then
    let cs := s.toList
    let (amount, unit) := (cs.take (cs.length - 2), cs.drop (cs.length - 2))
    match Binary.ofText? (.ofList amount), units.lookup (.ofList unit) with
    | none, _ => .error (.badValue ("no number: " ++ String.ofList amount))
    | some _, none => .error (.noSuchKey (.ofList unit))
    | some x, some n => rounded (x.mul (.ofInt n))
  else
    match Text.readInteger s with
    | .ok n => .ok (ofTwentieths n)
    | .error e => .error (.badValue e.message)

/-- A length that has to lie in a range. -/
def within (low high : Int) (l : Length) : Except Fault Length :=
  if low ≤ l ∧ l ≤ high then .ok l
  else .error (.badValue ("value must be in range " ++ toString low ++ " to " ++ toString high ++
    " inclusive, got " ++ toString l))

/-- A length in twentieths of a point. -/
def twentieths (l : Length) : Except Fault Int := do
  rounded ((← binary l).div (.ofInt twentieth))

/-- A length in halves of a point, rounded down. -/
def halfPoints (l : Length) : Except Fault Int := do
  whole (((← binary l).div (.ofInt point)).mul (.ofInt 2))

/-- The greatest length that is not negative. -/
def most : Int := 0xFFFFFFFFFFFFFFFF

/-- A distance as it is written. It may not be negative. -/
def distanceText (l : Length) : Except Fault String := do
  return toString (← twentieths (← within 0 most l))

/-- A signed distance as it is written. -/
def indentText (l : Length) : Except Fault String := do
  return toString (← twentieths (← within (-0x80000000) 0x7FFFFFFF l))

/-- A size of letters as it is written, given in points. -/
def sizeText (points : Number) : Except Fault String := do
  return toString (← halfPoints (← within 0 most (← ofUnits points point)))

/-- A side of a picture as it is written. -/
def sideText (l : Length) : Except Fault String := do
  return toString (← within 0 27273042316900 l)

end Length

end Manuscript.Docx
