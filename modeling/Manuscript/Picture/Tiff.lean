import Manuscript.Picture.Basic

/-!
# TIFF files

A file has a directory of tagged fields. Numbers are in the order of bytes that the file starts
with. A field of a kind that is not known, or with several values, counts as given, but not as a
number.
-/

namespace Manuscript.Picture.Tiff

/-- A tagged field, and the number that it gives. -/
structure Field where
  tag : Nat
  value : Option Number
  deriving DecidableEq, Repr, Inhabited

/-- The number of a fraction, whose divisor may not be zero. -/
def fraction? (n d : Nat) : Option Number :=
  if d = 0 then none else some (.float (.ofQuotient n d))

/-- The field at a place. -/
def field? (order : Bytes.Order) (bs : ByteArray) (place : Nat) : Option Field := do
  let number? := Bytes.number? order bs
  let kind ← number? (place + 2) 2
  let tag ← number? place 2
  let count ← number? (place + 4) 4
  let far ← number? (place + 8) 4
  match kind, count with
  | 2, 0 => none
  | 2, n + 1 => do
    let _ ← String.fromUTF8? (← Bytes.slice? bs far n)
    return ⟨tag, none⟩
  | 3, 1 => return ⟨tag, some (.whole (← number? (place + 8) 2))⟩
  | 4, 1 => return ⟨tag, some (.whole far)⟩
  | 5, 1 => return ⟨tag, ← fraction? (← number? far 4) (← number? (far + 4) 4)⟩
  | _, _ => return ⟨tag, none⟩

/-- The field of a tag; of several the last one counts. -/
def find? (fields : List Field) (tag : Nat) : Option Field :=
  fields.reverse.find? (·.tag == tag)

/-- The number that a number is as one of the binary format. -/
def toBinary : Number → Binary
  | .whole n => .ofInt n
  | .float x => x

/-- Whether a field gives a whole number, by its value. -/
def gives (f : Option Field) (n : Int) : Bool :=
  match f.bind (·.value) with
  | some (.whole m) => m == n
  | some (.float x) => x.equalsInt n
  | none => false

/-- The number of dots to an inch in the field of a tag. The unit is an inch unless the file says
    that it is another one, or that there is none. -/
def density? (fields : List Field) (tag : Nat) : Option Nat :=
  let unit := find? fields 0x128
  match find? fields tag with
  | none => some commonDensity
  | some f =>
    if gives unit 1 then some commonDensity
    else do
      let dots := toBinary (← f.value)
      if unit.isNone ∨ gives unit 2 then return density dots (.ofInt 1)
      else return densityOfCentimetre dots

/-- The picture in a file. -/
def read? (bs : ByteArray) : Option Picture := do
  let order : Bytes.Order := if Bytes.hasText bs 0 "MM" then .big else .little
  let place ← Bytes.number? order bs 4 4
  let count ← Bytes.number? order bs place 2
  let fields ← (List.range count).mapM fun i => field? order bs (place + 2 + 12 * i)
  let size (tag : Nat) := (find? fields tag).bind (·.value)
  return ⟨.tiff, size 0x100, size 0x101, ← density? fields 0x11A, ← density? fields 0x11B⟩

end Manuscript.Picture.Tiff
