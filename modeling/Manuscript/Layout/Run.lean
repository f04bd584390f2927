import Manuscript.Layout.Format

/-!
# Runs

A run is a piece of text of one format, or a line break. A run may belong to a link, and it may
stand for a picture.
-/

namespace Manuscript.Layout

/-- What a run is. -/
inductive Run.Kind
  | text
  | softBreak
  | hardBreak
  deriving DecidableEq, Repr, Inhabited

/-- A piece of text of one format, or a line break. -/
structure Run where
  text : String
  format : Format := .plain
  kind : Run.Kind := .text
  /-- Where the link that the run belongs to leads. -/
  hyperlink : Option String := none
  /-- The picture that the text stands for. -/
  imageSource : Option String := none
  deriving DecidableEq, Repr, Inhabited

namespace Run

/-- Whether the run breaks the line. -/
def isBreak (r : Run) : Bool :=
  r.kind != .text

/-- The text of the run, a line end for a break. -/
def shown (r : Run) : String :=
  if r.isBreak then "\n" else r.text

/-- The text of runs, in order. -/
def shownAll (rs : List Run) : String :=
  String.join (rs.map shown)

end Run

end Manuscript.Layout
