import Manuscript.Picture.Basic

/-!
# GIF and BMP files

Both formats have the size of the picture at a fixed place. The first says nothing about the number
of dots to an inch, the second has the number of dots to a metre, which may be zero.
-/

namespace Manuscript.Picture

/-- The picture in a GIF file. -/
def Gif.read? (bs : ByteArray) : Option Picture := do
  let width ← Bytes.number? .little bs 6 2
  let height ← Bytes.number? .little bs 8 2
  return ⟨.gif, some (.whole width), some (.whole height), commonDensity, commonDensity⟩

/-- The number of dots to an inch of a BMP file that does not say it. -/
def Bmp.commonDensity : Nat := 96

/-- The picture in a BMP file. -/
def Bmp.read? (bs : ByteArray) : Option Picture := do
  let field (place : Nat) := Bytes.number? .little bs place 4
  let dots (n : Nat) := if n = 0 then Bmp.commonDensity else densityOfMetre n
  let width ← field 0x12
  let height ← field 0x16
  return ⟨.bmp, some (.whole width), some (.whole height), dots (← field 0x26), dots (← field 0x2A)⟩

end Manuscript.Picture
