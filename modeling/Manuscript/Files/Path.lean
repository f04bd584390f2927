/-!
# Paths

A path is a list of names, which leads from the root of all files or from the folder that is worked
in. Slashes at its end, repeated ones and steps that stay in place mean nothing, so a path is kept
without them.
-/

namespace Manuscript

/-- A path to a file or folder. It leads from the root if there is a slash in front of it. -/
structure Path where
  /-- The slash in front, if there is one; exactly two of them are kept apart. -/
  root : String := ""
  names : List String := []
  deriving DecidableEq, Repr, Inhabited

namespace Path

/-- The slashes that a text begins with. -/
def rootOf (s : String) : String :=
  match (s.toList.takeWhile (· == '/')).length with
  | 0 => ""
  | 2 => "//"
  | _ => "/"

/-- The path of a text. -/
def ofText (s : String) : Path where
  root := rootOf s
  names := ((s.toList.splitOn '/').map .ofList).filter fun n => !n.isEmpty && n != "."

/-- The text of a path. The path that stays in place is a dot. -/
def text (p : Path) : String :=
  if p.root.isEmpty ∧ p.names.isEmpty then "." else p.root ++ "/".intercalate p.names

/-- Whether the path leads from the root. -/
def isAbsolute (p : Path) : Bool :=
  !p.root.isEmpty

/-- The path that leads on from `p` by `q`. -/
def join (p q : Path) : Path :=
  if q.isAbsolute then q else { p with names := p.names ++ q.names }

/-- The path that leads on to a name. -/
def child (p : Path) (name : String) : Path :=
  { p with names := p.names ++ [name] }

/-- The last name of the path; none for a root or a path that stays in place. -/
def name (p : Path) : String :=
  p.names.getLast?.getD ""

/-- The path of the folder that the last name is in. -/
def parent (p : Path) : Path :=
  { p with names := p.names.dropLast }

/-- Splits a name before its last dot, if something stands on both sides of it. -/
def splitName (name : String) : String × String :=
  let cs := name.toList
  let tail := cs.reverse.takeWhile (· != '.')
  let stem := cs.take (cs.length - tail.length - 1)
  if tail.isEmpty ∨ stem.isEmpty ∨ cs.length ≤ tail.length then (name, "")
  else (.ofList stem, .ofList ('.' :: tail.reverse))

/-- The end of the last name, from its last dot on. -/
def suffix (p : Path) : String :=
  (splitName p.name).2

/-- The path whose last name has another suffix. -/
def withSuffix (p : Path) (suffix : String) : Path :=
  { p with names := p.names.dropLast ++ [(splitName p.name).1 ++ suffix] }

end Path

end Manuscript
