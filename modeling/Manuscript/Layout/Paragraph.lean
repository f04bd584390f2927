import Manuscript.Layout.Run

/-!
# Paragraphs

A paragraph is a sequence of runs with its style and measures. Measures are in twentieths of a
point.
-/

namespace Manuscript.Layout

/-- The two kinds of lists. -/
inductive ListKind
  | bullet
  | ordered
  deriving DecidableEq, Repr, Inhabited

/-- A paragraph of a laid out document. -/
structure Paragraph where
  runs : List Run := []
  styleName : Option String := none
  spacingAfter : Option Int := none
  leftIndent : Option Int := none
  rightIndent : Option Int := none
  /-- Whether a line is drawn below the paragraph. -/
  bottomBorder : Bool := false
  /-- The colour of the background. -/
  shading : Option String := none
  /-- The kind of list that the paragraph opens an item of. -/
  listKind : Option ListKind := none
  /-- The number of that item. -/
  listOrdinal : Option Int := none
  /-- How many list items the paragraph stands in, not counting the one that it opens. -/
  listLevel : Int := 0
  deriving DecidableEq, Repr, Inhabited

namespace Paragraph

/-- The paragraph with a run added at its end. -/
def addRun (p : Paragraph) (r : Run) : Paragraph :=
  { p with runs := p.runs ++ [r] }

/-- The paragraph with runs added at its end, in order. -/
def extend (p : Paragraph) (rs : List Run) : Paragraph :=
  { p with runs := p.runs ++ rs }

/-- The text of the paragraph, with a line end for each break. -/
def text (p : Paragraph) : String :=
  Run.shownAll p.runs

end Paragraph

end Manuscript.Layout
