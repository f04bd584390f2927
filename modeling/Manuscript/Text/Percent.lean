import Manuscript.Text.Quoted

/-!
# Percent encoding

In an address every byte that is neither a letter, a digit nor one of the marks that addresses are
made of is written as a percent sign and two digits of base sixteen. A percent sign itself stays, so
that an address that is encoded already is not encoded again.
-/

namespace Manuscript.Text

/-- The characters that stay as they are in an address. -/
def isAddressChar (c : Char) : Bool :=
  c.isAlphanum || "_.-~:/?#@!$&()*+,;=%".toList.contains c

/-- A byte in base sixteen after a percent sign, in capitals. -/
def percentByte (b : UInt8) : List Char :=
  '%' :: (hexDigits 2 b.toNat).map Char.toUpper

/-- The address of a text. -/
def percentEncode (cs : List Char) : List Char :=
  cs.flatMap fun c =>
    if isAddressChar c then [c] else c.toString.toUTF8.toList.flatMap percentByte

end Manuscript.Text
