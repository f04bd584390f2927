import Manuscript.Picture.Basic

/-!
# PNG files

A file is a sequence of chunks, the last of which is of the kind `IEND`. The chunk `IHDR` has the
size of the picture, and `pHYs`, if there is one, the number of dots to a metre.
-/

namespace Manuscript.Picture.Png

/-- A chunk: its kind, and where its content starts. -/
structure Chunk where
  kind : String
  place : Nat
  deriving DecidableEq, Repr, Inhabited

/-- A number in a file. -/
def number? (bs : ByteArray) (place count : Nat) : Option Nat :=
  Bytes.number? .big bs place count

/-- The chunks from a place on. -/
def chunks? (bs : ByteArray) (place : Nat) : Nat → Option (List Chunk)
  | 0 => none
  | fuel + 1 => do
    let size ← number? bs place 4
    let kind ← String.fromUTF8? (← Bytes.slice? bs (place + 4) 4)
    let chunk : Chunk := ⟨kind, place + 8⟩
    if kind = "IEND" then return [chunk]
    return chunk :: (← chunks? bs (place + 12 + size) fuel)

/-- The size that a chunk gives. -/
def size? (bs : ByteArray) (c : Chunk) : Option (Nat × Nat) := do
  return (← number? bs c.place 4, ← number? bs (c.place + 4) 4)

/-- The numbers of dots to a unit that a chunk gives, and the unit. -/
def densities? (bs : ByteArray) (c : Chunk) : Option (Nat × Nat × Nat) := do
  return (← number? bs c.place 4, ← number? bs (c.place + 4) 4, ← number? bs (c.place + 8) 1)

/-- The picture in a file. -/
def read? (bs : ByteArray) : Option Picture := do
  let chunks ← chunks? bs 8 (bs.size + 1)
  let sizes ← (chunks.filter (·.kind == "IHDR")).mapM (size? bs)
  let given ← (chunks.filter (·.kind == "pHYs")).mapM (densities? bs)
  let (width, height) ← sizes.head?
  let dots (unit n : Nat) := if unit = 1 ∧ n ≠ 0 then densityOfMetre n else commonDensity
  let (horizontal, vertical) := match given.head? with
    | some (x, y, unit) => (dots unit x, dots unit y)
    | none => (commonDensity, commonDensity)
  return ⟨.png, some (.whole width), some (.whole height), horizontal, vertical⟩

end Manuscript.Picture.Png
