import Manuscript.Value

/-!
# Character formats

The format of a run of text: four flags, a colour and a size. A format is refined on the way down a
tree of inlines, and merging a setting into it never takes a flag away: a flag is on when it was on
before or the setting turns it on, while colour and size are replaced (`Format.apply`).
-/

namespace Manuscript.Layout

/-- The format of a run. A colour is six hexadecimal digits, a size is in points; where there is
    none, that of the surrounding style holds. -/
structure Format where
  bold : Bool := false
  italic : Bool := false
  underline : Bool := false
  monospace : Bool := false
  color : Option String := none
  fontSize : Option Number := none
  deriving DecidableEq, Repr, Inhabited

namespace Format

/-- Text as it comes. -/
def plain : Format := {}

/-- Bold text. -/
def boldface : Format := { bold := true }

/-- A setting that is merged into a format. -/
inductive Change
  | bold (on : Bool)
  | italic (on : Bool)
  | underline (on : Bool)
  | monospace (on : Bool)
  | color (c : Option String)
  | fontSize (size : Option Number)
  deriving DecidableEq, Repr, Inhabited

/-- Merges one setting into a format. -/
def apply (f : Format) : Change → Format
  | .bold on => { f with bold := f.bold || on }
  | .italic on => { f with italic := f.italic || on }
  | .underline on => { f with underline := f.underline || on }
  | .monospace on => { f with monospace := f.monospace || on }
  | .color c => { f with color := c }
  | .fontSize size => { f with fontSize := size }

/-- Merges settings into a format, one after another. -/
def merge (f : Format) (changes : List Change) : Format :=
  changes.foldl apply f

end Format

end Manuscript.Layout
