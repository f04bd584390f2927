import Manuscript.Number.Binary

/-!
# The shortest decimal of a number

A finite number of the binary format is written with the fewest digits that read back as the same
number, and of those with the nearest to its value. The digits are found on the decimal grids one
after another: the first grid with a point in the interval of reals that round to the number wins.
Positional notation is used from `1e-4` up to, but without, `1e16`, always with a fraction.
-/

namespace Manuscript.Binary

/-- The reals that round to `mantissa · 2 ^ exponent` lie between `low` and `high` over `unit`; the
    number itself is `value` over `unit`. The ends belong to the interval when `closed`. -/
structure Interval where
  low : Nat
  value : Nat
  high : Nat
  unit : Nat
  closed : Bool

/-- The reals that round to a positive number of the format. -/
def interval (mantissa : Nat) (exponent : Int) : Interval :=
  -- the neighbour below is half as far when the mantissa is the least of its exponent
  let narrow := mantissa == leadingBit && decide (-1074 < exponent)
  let value := 4 * mantissa
  let low := value - (if narrow then 1 else 2)
  let high := value + 2
  let e := exponent - 2
  let closed := mantissa % 2 == 0
  if 0 ≤ e then
    { low := low <<< e.toNat, value := value <<< e.toNat, high := high <<< e.toNat, unit := 1,
      closed }
  else { low, value, high, unit := 1 <<< (-e).toNat, closed }

/-- Whether `digits · 10 ^ power` lies in the interval. -/
def Interval.contains (i : Interval) (digits : Nat) (power : Int) : Bool :=
  let (a, b) := if 0 ≤ power then (digits * Nat.pow 10 power.toNat * i.unit, 1)
    else (digits * i.unit, Nat.pow 10 (-power).toNat)
  if i.closed then i.low * b ≤ a && a ≤ i.high * b else i.low * b < a && a < i.high * b

/-- The point of the grid of step `10 ^ power` that lies in the interval nearest to the number. -/
def Interval.onGrid (i : Interval) (power : Int) : Option Nat :=
  let (num, den) := if 0 ≤ power then (i.value, i.unit * Nat.pow 10 power.toNat)
    else (i.value * Nat.pow 10 (-power).toNat, i.unit)
  let below := num / den
  let nearest := roundDiv num den
  let other := if nearest = below then below + 1 else below
  if i.contains nearest power then some nearest
  else if i.contains other power then some other
  else none

/-- The power of ten of the leading digit of `num / den`. -/
def leadingPower (num den : Nat) : Int :=
  let guess : Int := ((num.log2 : Int) - (den.log2 : Int)) * 30103 / 100000
  let reaches (p : Int) : Bool :=
    if 0 ≤ p then den * Nat.pow 10 p.toNat ≤ num else den ≤ num * Nat.pow 10 (-p).toNat
  if reaches (guess + 1) then guess + 1 else if reaches guess then guess else guess - 1

/-- The fewest digits and the power of ten of the last that read back as a positive number. -/
def shortestDigits (mantissa : Nat) (exponent : Int) : Nat × Int :=
  let i := interval mantissa exponent
  let lead := leadingPower i.value i.unit
  let hit := (List.range 18).findSome? fun (k : Nat) =>
    let power := lead + 1 - k
    (i.onGrid power).bind fun digits => if digits = 0 then none else some (digits, power)
  hit.getD (mantissa, exponent)

/-- The digits without the zeros at their end, and the power of ten of the last one left. -/
def withoutTrailingZeros (fuel digits : Nat) (power : Int) : Nat × Int :=
  match fuel with
  | 0 => (digits, power)
  | fuel + 1 =>
    if digits % 10 = 0 ∧ digits ≠ 0 then withoutTrailingZeros fuel (digits / 10) (power + 1)
    else (digits, power)

/-- A positive number in decimal: `digits · 10 ^ power` with the point after the digit of the ones,
    or after the first digit and with an exponent of at least two places. -/
def decimalText (digits : Nat) (power : Int) : String :=
  let (digits, power) := withoutTrailingZeros 40 digits power
  let ds := (toString digits).toList
  let point : Int := power + ds.length
  if -4 < point ∧ point ≤ 16 then
    if point ≤ 0 then
      "0." ++ String.ofList (List.replicate (-point).toNat '0' ++ ds)
    else if ds.length ≤ point.toNat then
      String.ofList (ds ++ List.replicate (point.toNat - ds.length) '0') ++ ".0"
    else String.ofList (ds.take point.toNat) ++ "." ++ String.ofList (ds.drop point.toNat)
  else
    let e := point - 1
    let magnitude := toString e.natAbs
    let places := if magnitude.length < 2 then "0" ++ magnitude else magnitude
    let fraction := if ds.length = 1 then "" else "." ++ String.ofList (ds.drop 1)
    String.ofList (ds.take 1) ++ fraction ++ "e" ++ (if e < 0 then "-" else "+") ++ places

/-- The text of a number. -/
def text : Binary → String
  | nan => "nan"
  | infinite negative => if negative then "-inf" else "inf"
  | finite negative m e =>
    let sign := if negative then "-" else ""
    if m = 0 then sign ++ "0.0"
    else
      let (digits, power) := shortestDigits m e
      sign ++ decimalText digits power

end Manuscript.Binary
