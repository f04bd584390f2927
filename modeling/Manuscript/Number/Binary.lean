/-!
# Binary floating point

The numbers of the 64-bit binary format, as exact values: a finite number is a sign, a mantissa and
a power of two. Arithmetic is done on the exact rational values and rounded once, to the nearest
number of the format and to the even mantissa of two equally near ones, so each operation is the
exact one followed by `Binary.ofRatio`.
-/

namespace Manuscript

/-- A number of the 64-bit binary format. A finite one is `± mantissa · 2 ^ exponent`, with the
    mantissa below `2 ^ 53` and the least exponent that allows it, at least `-1074`. -/
inductive Binary
  | nan
  | infinite (negative : Bool)
  | finite (negative : Bool) (mantissa : Nat) (exponent : Int)
  deriving DecidableEq, Repr, Inhabited

namespace Binary

/-- The quotient of two numbers rounded to the nearest whole one, the even one of two. -/
def roundDiv (num den : Nat) : Nat :=
  let q := num / den
  let r := num % den
  if 2 * r < den then q else if den < 2 * r then q + 1 else q + q % 2

/-- The leading bit of a mantissa of full length. -/
def leadingBit : Nat := 1 <<< 52

/-- The zero of a sign. -/
def zero (negative : Bool := false) : Binary :=
  .finite negative 0 (-1074)

/-- The number of the format nearest to `± num / den`, for a denominator that is not zero. -/
def ofRatio (negative : Bool) (num den : Nat) : Binary :=
  if num = 0 then zero negative else
  -- the exponent of the leading bit is `scale` or `scale - 1`
  let scale : Int := num.log2 - den.log2
  let leading : Int :=
    if 0 ≤ scale then if num < den <<< scale.toNat then scale - 1 else scale
    else if num <<< (-scale).toNat < den then scale - 1 else scale
  let exponent := max (leading - 52) (-1074)
  let m :=
    if 0 ≤ exponent then roundDiv num (den <<< exponent.toNat)
    else roundDiv (num <<< (-exponent).toNat) den
  let (m, exponent) := if m = 2 * leadingBit then (leadingBit, exponent + 1) else (m, exponent)
  if 971 < exponent then .infinite negative else .finite negative m exponent

/-- The number of the format nearest to `± digits · 10 ^ power`. -/
def ofDecimal (negative : Bool) (digits : Nat) (power : Int) : Binary :=
  if digits = 0 then zero negative
  -- beyond these powers the value is infinite or zero whatever the digits
  else if 400 < power then .infinite negative
  else if power < -(400 + (digits.log2 : Int)) then zero negative
  else if 0 ≤ power then ofRatio negative (digits * Nat.pow 10 power.toNat) 1
  else ofRatio negative digits (Nat.pow 10 (-power).toNat)

/-- The number of the format nearest to a whole one. -/
def ofInt (n : Int) : Binary :=
  ofRatio (decide (n < 0)) n.natAbs 1

/-- The exact value of a finite number, as numerator and positive denominator. -/
def ratio : Binary → Option (Int × Nat)
  | finite negative m e =>
    let sign : Int := if negative then -1 else 1
    if 0 ≤ e then some (sign * (m <<< e.toNat : Nat), 1) else some (sign * m, 1 <<< (-e).toNat)
  | _ => none

/-- Whether the sign is the negative one. -/
def isNegative : Binary → Bool
  | nan => false
  | infinite negative => negative
  | finite negative _ _ => negative

/-- The whole number that is left when the fraction is cut off. -/
def truncate (x : Binary) : Option Int :=
  x.ratio.map fun (n, d) => n.tdiv d

/-- The nearest whole number, the even one of two. -/
def nearest (x : Binary) : Option Int :=
  x.ratio.map fun (n, d) => if n < 0 then -(roundDiv n.natAbs d : Int) else roundDiv n.natAbs d

/-- Whether the number is at most zero, which a number that is not a number never is. -/
def nonpos : Binary → Bool
  | nan => false
  | infinite negative => negative
  | finite negative m _ => negative || m == 0

/-- Whether the number is a zero of either sign. -/
def isZero : Binary → Bool
  | finite _ m _ => m == 0
  | _ => false

/-- The rounded product. -/
def mul (x y : Binary) : Binary :=
  match x.ratio, y.ratio with
  | some (n, d), some (n', d') =>
    ofRatio (x.isNegative != y.isNegative) (n.natAbs * n'.natAbs) (d * d')
  | _, _ =>
    if x = nan ∨ y = nan ∨ x.isZero ∨ y.isZero then nan
    else .infinite (x.isNegative != y.isNegative)

/-- The rounded quotient, for a divisor that is not zero. -/
def div (x y : Binary) : Binary :=
  let negative := x.isNegative != y.isNegative
  match x.ratio, y.ratio with
  | some (n, d), some (n', d') => ofRatio negative (n.natAbs * d') (d * n'.natAbs)
  | some _, none => if y = nan then nan else zero negative
  | none, some _ => if x = nan then nan else .infinite negative
  | none, none => nan

/-- The rounded quotient of two whole numbers, for a divisor that is not zero. -/
def ofQuotient (n d : Int) : Binary :=
  ofRatio (decide (n < 0) != decide (d < 0)) n.natAbs d.natAbs

/-- The rounded sum. -/
def add (x y : Binary) : Binary :=
  match x, y, x.ratio, y.ratio with
  | _, _, some (n, d), some (n', d') =>
    let sum := n * d' + n' * d
    if sum = 0 then zero (x.isNegative && y.isNegative)
    else ofRatio (decide (sum < 0)) sum.natAbs (d * d')
  | nan, _, _, _ => nan
  | _, nan, _, _ => nan
  | infinite a, infinite b, _, _ => if a = b then x else nan
  | infinite _, _, _, _ => x
  | _, _, _, _ => y

/-- The number with the other sign. -/
def neg : Binary → Binary
  | nan => nan
  | infinite negative => infinite !negative
  | finite negative m e => finite (!negative) m e

/-- Whether the number equals a whole one. -/
def equalsInt (x : Binary) (n : Int) : Bool :=
  match x.ratio with
  | some (num, den) => num == n * den
  | none => false

/-- Whether two numbers are equal: zeros of both signs are, and what is not a number is not. -/
def same (x y : Binary) : Bool :=
  match x, y with
  | nan, _ => false
  | finite _ 0 _, finite _ 0 _ => true
  | _, _ => decide (x = y)

end Binary

end Manuscript
