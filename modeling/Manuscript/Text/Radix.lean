import Manuscript.Text.Hex
import Manuscript.Text.Integer

/-!
# Whole numbers of another base

A whole number of base two, eight or sixteen is written like one of base ten, and may have a zero
and a letter for its base in front of its digits.
-/

namespace Manuscript.Text

/-- The value of a digit of a base; the decimal ones may be of any script. -/
def digitIn? (base : Nat) (c : Char) : Option Nat :=
  ((hexValue? c).orElse fun _ => digitValue? c).filter (· < base)

/-- The number that digits stand for, with single underscores between them; `n` is the one so
    far. -/
def digitsIn? (base n : Nat) : List Char → Option Nat
  | [] => some n
  | '_' :: c :: cs => (digitIn? base c).bind fun d => digitsIn? base (base * n + d) cs
  | c :: cs => (digitIn? base c).bind fun d => digitsIn? base (base * n + d) cs

/-- The letter for a base, in lower case. -/
def letterOf? : Nat → Option Char
  | 2 => some 'b'
  | 8 => some 'o'
  | 16 => some 'x'
  | _ => none

/-- The number without a sign that a text stands for. -/
def magnitudeIn? (base : Nat) (cs : List Char) : Option Nat :=
  let body := match cs with
    | z :: x :: rest =>
      if digitValue? z = some 0 ∧ letterOf? base = some x.toLower then
        match rest with
        | '_' :: rest => rest
        | rest => rest
      else cs
    | cs => cs
  match body with
  | c :: cs => (digitIn? base c).bind fun d => digitsIn? base d cs
  | [] => none

/-- The number that a text stands for. -/
def integerIn? (base : Nat) (cs : List Char) : Option Int :=
  match stripBy isNumberBlank cs with
  | '-' :: rest => (magnitudeIn? base rest).map fun n => -(n : Int)
  | '+' :: rest => (magnitudeIn? base rest).map (↑·)
  | body => (magnitudeIn? base body).map (↑·)

end Manuscript.Text
