/-!
# Bytes in base 64

Bytes are written as text with six bits in each character, and the text is filled up with equals
signs. A reader skips all other characters, and ends where the text is filled up.
-/

namespace Manuscript.Text

/-- The six bits that a character stands for. -/
def base64Value? (c : Char) : Option Nat :=
  if 'A' ≤ c ∧ c ≤ 'Z' then some (c.toNat - 0x41)
  else if 'a' ≤ c ∧ c ≤ 'z' then some (c.toNat - 0x61 + 26)
  else if c.isDigit then some (c.toNat - 0x30 + 52)
  else if c = '+' then some 62
  else if c = '/' then some 63
  else none

/-- The bytes of a text, after `count` characters of a group of four that have left the bits `held`,
    and some signs that fill up. None if the text ends within a group. -/
def decodeBase64From (count held fill : Nat) : List Char → Option (List UInt8)
  | [] => if count = 0 then some [] else none
  | c :: rest =>
    if c = '=' then
      if 2 ≤ count ∧ 4 ≤ count + fill + 1 then some []
      else decodeBase64From count held (if 2 ≤ count then fill + 1 else fill) rest
    else
      match base64Value? c with
      | none => decodeBase64From count held fill rest
      | some v =>
        match count with
        | 0 => decodeBase64From 1 v 0 rest
        | 1 => (decodeBase64From 2 (v % 16) 0 rest).map ((held * 4 + v / 16).toUInt8 :: ·)
        | 2 => (decodeBase64From 3 (v % 4) 0 rest).map ((held * 16 + v / 4).toUInt8 :: ·)
        | _ => (decodeBase64From 0 0 0 rest).map ((held * 64 + v).toUInt8 :: ·)

/-- The bytes of a text. -/
def decodeBase64? (cs : List Char) : Option (List UInt8) :=
  decodeBase64From 0 0 0 cs

end Manuscript.Text
