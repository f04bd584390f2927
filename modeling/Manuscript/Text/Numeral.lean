/-!
# Numerals

A number in a text of data is written with digits, a point with digits after it, and an exponent, of
which the last two may be missing. What is taken as digits is up to the format, given as a reader
that takes them from the front of a text.
-/

namespace Manuscript.Text

variable (take : List Char → List Char × List Char)

/-- Takes the digits before the point. A zero is the only one of them if it is the first. -/
def takeWhole (cs : List Char) : Option (List Char × List Char) :=
  match cs with
  | '0' :: rest => some (['0'], rest)
  | _ =>
    let (ds, rest) := take cs
    if ds.isEmpty then none else some (ds, rest)

/-- Takes the point and the digits after it. A point without digits does not belong to a number. -/
def takeFraction (cs : List Char) : List Char × List Char :=
  match cs with
  | '.' :: after =>
    let (ds, after) := take after
    if ds.isEmpty then ([], cs) else ('.' :: ds, after)
  | _ => ([], cs)

/-- Takes the exponent. One without digits does not belong to a number. -/
def takeExponent (cs : List Char) : List Char × List Char :=
  match cs with
  | e :: after =>
    if e = 'e' ∨ e = 'E' then
      let (sign, after) := match after with
        | '+' :: r => (['+'], r)
        | '-' :: r => (['-'], r)
        | r => ([], r)
      let (ds, after) := take after
      if ds.isEmpty then ([], cs) else (e :: sign ++ ds, after)
    else ([], cs)
  | [] => ([], cs)

end Manuscript.Text
