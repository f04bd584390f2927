import Manuscript.Bytes
import Manuscript.Number

/-!
# Pictures

What is known of a picture from the bytes of its file: its format, its size in dots, and how many
dots there are to an inch in both directions. Formats that do not say how many dots there are to an
inch are taken to have `commonDensity` of them.
-/

namespace Manuscript

/-- The formats of pictures. -/
inductive Picture.Format
  | png | jpeg | gif | tiff | bmp
  deriving DecidableEq, Repr, Inhabited

/-- What is known of a picture. -/
structure Picture where
  format : Picture.Format
  /-- The number of dots in a row; there is none if the file gives something else in its place. -/
  width : Option Number
  /-- The number of rows. -/
  height : Option Number
  /-- The number of dots to an inch in a row. -/
  horizontal : Nat
  /-- The number of rows to an inch. -/
  vertical : Nat
  deriving DecidableEq, Repr, Inhabited

namespace Picture

/-- The suffix of the files of a format. -/
def Format.suffix : Format → String
  | png => "png"
  | jpeg => "jpg"
  | gif => "gif"
  | tiff => "tiff"
  | bmp => "bmp"

/-- The kind of the content of a format. -/
def Format.mediaType : Format → String
  | png => "image/png"
  | jpeg => "image/jpeg"
  | gif => "image/gif"
  | tiff => "image/tiff"
  | bmp => "image/bmp"

/-- The number of dots to an inch where nothing is said about it. -/
def commonDensity : Nat := 72

/-- A number of dots to an inch, given as a multiple of a unit. It is rounded to a whole one, the
    even one of two. -/
def density (dots unit : Binary) : Nat :=
  ((dots.mul unit).nearest.map Int.toNat).getD 0

/-- The number of dots to an inch of a number of dots to a metre. -/
def densityOfMetre (dots : Nat) : Nat :=
  density (.ofInt dots) (.ofDecimal false 254 (-4))

/-- The number of dots to an inch of a number of dots to a centimetre. -/
def densityOfCentimetre (dots : Binary) : Nat :=
  density dots (.ofDecimal false 254 (-2))

end Picture

end Manuscript
