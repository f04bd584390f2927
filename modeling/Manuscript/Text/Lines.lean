/-!
# Lines

The lines of a text, each with its ending. A line ends at any of the Unicode line boundaries, and a
carriage return followed by a line feed is one ending. The lines of a text concatenate to it
(`flatten_lines`).
-/

namespace Manuscript.Text

/-- The characters that end a line. -/
def isLineEnd (c : Char) : Bool :=
  let n := c.toNat
  (0x0a ≤ n && n ≤ 0x0d) || (0x1c ≤ n && n ≤ 0x1e) || n == 0x85 || n == 0x2028 || n == 0x2029

/-- The lines of a text, the first of which continues `begun`, given in reverse. -/
def linesFrom (begun : List Char) : List Char → List (List Char)
  | [] => if begun.isEmpty then [] else [begun.reverse]
  | '\r' :: '\n' :: rest => ('\n' :: '\r' :: begun).reverse :: linesFrom [] rest
  | c :: rest =>
    if isLineEnd c then (c :: begun).reverse :: linesFrom [] rest else linesFrom (c :: begun) rest

/-- The lines of a text, with their endings. -/
def lines (cs : List Char) : List (List Char) :=
  linesFrom [] cs

theorem flatten_linesFrom (begun cs : List Char) :
    (linesFrom begun cs).flatten = begun.reverse ++ cs := by
  fun_induction linesFrom begun cs with
  | case1 h => simp_all
  | case2 => simp
  | case3 _ _ ih => simp [ih]
  | case4 _ _ _ _ _ ih => simp [ih]
  | case5 _ _ _ _ _ ih => simp [ih]

theorem flatten_lines (cs : List Char) : (lines cs).flatten = cs := by
  simp [lines, flatten_linesFrom]

end Manuscript.Text
