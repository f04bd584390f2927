import Manuscript.Text.Blank
import Manuscript.Text.Digit
import Manuscript.Text.Quoted

/-!
# Whole numbers in text

A whole number is written with decimal digits of any script, with an optional sign before them and
single underscores between them, and may be surrounded by blanks (`readInteger`). Numbers of more
than `maxDigits` digits are refused, so that the time a reading takes stays in proportion to the
text.
-/

namespace Manuscript.Text

/-- Why a text is no whole number. -/
inductive IntegerError
  | malformed (text : String)
  | tooLong (digits : Nat)
  deriving DecidableEq, Repr, Inhabited

/-- The most digits that a whole number may have. -/
def maxDigits : Nat := 4300

/-- The message of an error. A text that is no number is shown quoted, up to 200 characters of
    it. -/
def IntegerError.message : IntegerError → String
  | malformed s =>
    "invalid literal for int() with base 10: " ++ String.ofList ((quoted s).toList.take 200)
  | tooLong n =>
    "Exceeds the limit (4300 digits) for integer string conversion: value has " ++ toString n ++
      " digits; use sys.set_int_max_str_digits() to increase the limit"

/-- What is said of a whole number that is too long to be shown. -/
def unshowable : String :=
  "Exceeds the limit (4300 digits) for integer string conversion; use " ++
    "sys.set_int_max_str_digits() to increase the limit"

/-- The blanks that may surround a number: of the ASCII ones, the separators of the text groups are
    none. -/
def isNumberBlank (c : Char) : Bool :=
  isBlank c && !(28 ≤ c.toNat && c.toNat ≤ 31)

/-- Reads digits and single underscores between them: the values of the digits, last one first, and
    what follows. There is none if no digit is there where one has to be. -/
def takeDigits (acc : List Nat) : List Char → Option (List Nat × List Char)
  | [] => if acc.isEmpty then none else some (acc, [])
  | c :: rest =>
    match digitValue? c with
    | some d => takeDigits (d :: acc) rest
    | none =>
      if acc.isEmpty then none
      else match c, rest with
        | '_', d :: rest' =>
          match digitValue? d with
          | some v => takeDigits (v :: acc) rest'
          | none => none
        | '_', [] => none
        | _, _ => some (acc, c :: rest)

/-- The number with the given digits, the last one first. -/
def ofDigits : List Nat → Nat
  | [] => 0
  | d :: ds => d + 10 * ofDigits ds

/-- The whole number that a text stands for. -/
def readInteger (s : String) : Except IntegerError Int :=
  let body := stripBy isNumberBlank s.toList
  let (negative, body) := match body with
    | '-' :: rest => (true, rest)
    | '+' :: rest => (false, rest)
    | _ => (false, body)
  match takeDigits [] body with
  | some (digits, rest) =>
    if maxDigits < digits.length then .error (.tooLong digits.length)
    else if rest.isEmpty then
      let n : Int := ofDigits digits
      .ok (if negative then -n else n)
    else .error (.malformed s)
  | none => .error (.malformed s)

end Manuscript.Text
