import Manuscript.Picture.Tiff

/-!
# JPEG files

A file is a sequence of segments, each after a marker, up to the one where the picture itself
starts. The size of the picture is in the segment that starts its frame, and the number of dots to
an inch in one of two segments, which the files of the two variants start with.
-/

namespace Manuscript.Picture.Jpeg

/-- The two variants of the format. -/
inductive Variant
  | jfif
  | exif
  deriving DecidableEq, Repr, Inhabited

/-- What is read from a segment. -/
inductive Segment
  /-- The densities of the first variant. -/
  | jfif (horizontal vertical : Nat)
  /-- The densities of the second variant. -/
  | exif (horizontal vertical : Nat)
  | frame (width height : Nat)
  | other
  deriving DecidableEq, Repr, Inhabited

/-- A number in a file. -/
def number? (bs : ByteArray) (place count : Nat) : Option Nat :=
  Bytes.number? .big bs place count

/-- The markers that no segment follows. -/
def standsAlone (marker : Nat) : Bool :=
  marker == 0x01 || (0xD0 ≤ marker && marker ≤ 0xD9)

/-- The markers that a frame starts with. -/
def startsFrame (marker : Nat) : Bool :=
  0xC0 ≤ marker && marker ≤ 0xCF && marker != 0xC4 && marker != 0xC8 && marker != 0xCC

/-- The marker that ends the file. -/
def endOfFile : Nat := 0xD9

/-- The marker that the picture itself follows. -/
def startOfScan : Nat := 0xDA

/-- Finds the next marker: the first byte after a byte of ones that is neither zero nor a byte of
    ones itself. The result is the marker and the place after it. -/
def marker? (bs : ByteArray) (place : Nat) (afterOnes : Bool) : Nat → Option (Nat × Nat)
  | 0 => none
  | fuel + 1 => do
    let b ← number? bs place 1
    if b = 0xFF then marker? bs (place + 1) true fuel
    else if afterOnes ∧ b ≠ 0 then return (b, place + 1)
    else marker? bs (place + 1) false fuel

/-- The number of dots to an inch in the unit of the first variant. -/
def densityIn (unit dots : Nat) : Nat :=
  if unit = 1 then dots else if unit = 2 then densityOfCentimetre (.ofInt dots) else commonDensity

/-- What the segment after a marker says; `size` is the number of its bytes. -/
def segment? (bs : ByteArray) (marker place size : Nat) : Option Segment :=
  if marker = 0xE0 then do
    let unit ← number? bs (place + 9) 1
    return .jfif (densityIn unit (← number? bs (place + 10) 2))
      (densityIn unit (← number? bs (place + 12) 2))
  else if marker = 0xE1 then
    if Bytes.hasText bs (place + 2) "Exif\x00\x00" then do
      let finish := if size < 8 then bs.size else place + size
      let p ← Tiff.read? (bs.extract (place + 8) finish)
      return .exif p.horizontal p.vertical
    else some (.exif commonDensity commonDensity)
  else if startsFrame marker then do
    let height ← number? bs (place + 3) 2
    return .frame (← number? bs (place + 5) 2) height
  else some .other

/-- The segments from a place on, up to the picture itself. -/
def segments? (bs : ByteArray) (place : Nat) : Nat → Option (List Segment)
  | 0 => none
  | fuel + 1 => do
    let (marker, next) ← marker? bs place false (bs.size + 1)
    let size ← if standsAlone marker then some 0 else number? bs next 2
    let segment ← segment? bs marker next size
    if marker = endOfFile ∨ marker = startOfScan then return [segment]
    return segment :: (← segments? bs (next + size) fuel)

/-- The picture in a file of a variant. -/
def read? (variant : Variant) (bs : ByteArray) : Option Picture := do
  let segments ← segments? bs 0 (bs.size + 1)
  let (width, height) ← segments.findSome? fun
    | .frame w h => some (w, h)
    | _ => none
  let (horizontal, vertical) ← segments.findSome? fun s =>
    match variant, s with
    | .jfif, .jfif h v => some (h, v)
    | .exif, .exif h v => some (h, v)
    | _, _ => none
  return ⟨.jpeg, some (.whole width), some (.whole height), horizontal, vertical⟩

end Manuscript.Picture.Jpeg
