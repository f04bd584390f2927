import Manuscript.Error.Fault
import Manuscript.Text.Radix

/-!
# Colours

A colour is three shares of light, each from 0 to 255. Its text has two characters for each of the
first two, and the rest is the third; each is read as a number in base sixteen in any form that such
a number may have: with a sign, a leading `0x`, single underscores between its digits and blanks
around it.
-/

namespace Manuscript.Docx.Color

/-- A share of light. -/
def share? (cs : List Char) : Option Nat :=
  match Text.integerIn? 16 cs with
  | some (.ofNat n) => if n ≤ 255 then some n else none
  | _ => none

/-- A share of light as it is written. -/
def shareText (n : Nat) : List Char :=
  (Text.hexDigits 2 n).map Char.toUpper

/-- The colour of a text as it is written: six digits. -/
def written (s : String) : Except Fault String :=
  let cs := s.toList
  match share? (cs.take 2), share? ((cs.drop 2).take 2), share? (cs.drop 4) with
  | some red, some green, some blue =>
    .ok (.ofList (shareText red ++ shareText green ++ shareText blue))
  | _, _, _ => .error (.badValue ("no colour: " ++ s))

end Manuscript.Docx.Color
