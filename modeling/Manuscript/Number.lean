import Manuscript.Number.Shortest

/-!
# Numbers

A size or width is a whole number or a binary floating-point one, and keeps the kind it was given
in: the two are shown differently, and only the second can fail to be a length.
-/

namespace Manuscript

/-- A whole or a floating-point number. -/
inductive Number
  | whole (n : Int)
  | float (x : Binary)
  deriving DecidableEq, Repr, Inhabited

namespace Number

instance : Coe Int Number := ⟨whole⟩

instance (n : Nat) : OfNat Number n := ⟨whole n⟩

/-- Whether the number is at most zero. -/
def nonpos : Number → Bool
  | whole n => decide (n ≤ 0)
  | float x => x.nonpos

/-- The number is positive: it is a number and greater than zero. -/
def Positive : Number → Prop
  | whole n => 0 < n
  | float x => x ≠ .nan ∧ x.nonpos = false

/-- The text of a number. -/
def text : Number → String
  | whole n => toString n
  | float x => x.text

end Number

end Manuscript
