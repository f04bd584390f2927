import Manuscript.Picture.Bitmap
import Manuscript.Picture.Jpeg
import Manuscript.Picture.Png

/-!
# Recognising pictures

The format of a picture is told from the first bytes of its file, never from the file's name.
-/

namespace Manuscript.Picture

/-- The bytes that tell a format: the place where they stand, and how a file with them is read. -/
def signatures : List (Nat × List UInt8 × (ByteArray → Option Picture)) :=
  [(0, [0x89, 0x50, 0x4E, 0x47, 0x0D, 0x0A, 0x1A, 0x0A], Png.read?),
    (6, "JFIF".toUTF8.toList, Jpeg.read? .jfif),
    (6, "Exif".toUTF8.toList, Jpeg.read? .exif),
    (0, "GIF87a".toUTF8.toList, Gif.read?),
    (0, "GIF89a".toUTF8.toList, Gif.read?),
    (0, "MM\x00*".toUTF8.toList, Tiff.read?),
    (0, "II*\x00".toUTF8.toList, Tiff.read?),
    (0, "BM".toUTF8.toList, Bmp.read?)]

/-- The picture in a file, if it is of a known format and sound. -/
def read? (bs : ByteArray) : Option Picture := do
  let (_, _, read) ← signatures.find? fun (place, mark, _) =>
    (Bytes.slice? bs place mark.length).any fun part => part.toList == mark
  read bs

end Manuscript.Picture
