/-!
# Hexadecimal digits

Numbers in base sixteen, as escapes and identifiers use them.
-/

namespace Manuscript.Text

/-- The value of a hexadecimal digit of either case. -/
def hexValue? (c : Char) : Option Nat :=
  if c.isDigit then some (c.toNat - 0x30)
  else if 'a' ≤ c ∧ c ≤ 'f' then some (c.toNat - 0x61 + 10)
  else if 'A' ≤ c ∧ c ≤ 'F' then some (c.toNat - 0x41 + 10)
  else none

/-- The number that digits stand for in a base, if all of them are digits of that base. -/
def ofRadix? (base : Nat) (cs : List Char) : Option Nat :=
  cs.foldlM (fun n c =>
    match hexValue? c with
    | some d => if d < base then some (n * base + d) else none
    | none => none) 0

/-- The number that hexadecimal digits stand for, if all of them are. -/
def ofHex? (cs : List Char) : Option Nat :=
  ofRadix? 16 cs

end Manuscript.Text
