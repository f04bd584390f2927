import Manuscript.Number.Binary
import Manuscript.Text.Integer

/-!
# Numbers of the binary format in text

A number is written with decimal digits, a point and an exponent, or as one of the words for what is
not finite. It is read as the nearest number of the format.
-/

namespace Manuscript.Binary

/-- Takes the digits of a text, which single underscores may stand between. -/
def takeDigits (cs : List Char) : List Nat × List Char :=
  (Text.takeDigits [] cs).getD ([], cs)

/-- The number that a text without sign stands for: digits, a point with digits after it and an
    exponent, of which the first two may not both be missing. -/
def ofDecimalText? (negative : Bool) (cs : List Char) : Option Binary := do
  let (whole, rest) := takeDigits cs
  let (fraction, rest) := match rest with
    | '.' :: rest => takeDigits rest
    | _ => ([], rest)
  if whole.isEmpty && fraction.isEmpty then none
  let (exponent, rest) ← match rest with
    | e :: rest' =>
      if e = 'e' ∨ e = 'E' then
        let (down, rest') := match rest' with
          | '-' :: r => (true, r)
          | '+' :: r => (false, r)
          | r => (false, r)
        let (digits, rest') := takeDigits rest'
        if digits.isEmpty then none
        else
          let n : Int := Text.ofDigits digits
          some (if down then -n else n, rest')
      else some (0, rest)
    | [] => some (0, [])
  if rest.isEmpty then
    some (.ofDecimal negative (Text.ofDigits (fraction ++ whole)) (exponent - fraction.length))
  else none

/-- The number that a text stands for. It may be surrounded by blanks and have a sign. -/
def ofText? (s : String) : Option Binary :=
  let body := Text.strip s.toList
  let (negative, body) := match body with
    | '-' :: rest => (true, rest)
    | '+' :: rest => (false, rest)
    | _ => (false, body)
  match String.ofList (body.map Char.toLower) with
  | "inf" | "infinity" => some (.infinite negative)
  | "nan" => some .nan
  | _ => ofDecimalText? negative body

end Manuscript.Binary
