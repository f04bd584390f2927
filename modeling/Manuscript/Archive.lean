import Manuscript.Archive.Checksum
import Manuscript.Archive.Deflate
import Manuscript.Error.Fault
import Manuscript.Text.Utf8

/-!
# Archives

An archive holds files by their names. Its end tells where its directory is, and the directory where
each file is (`Archive.open?`); bytes in front of the archive are passed over. A file is read when
it is asked for, so a damaged one hinders no other. Files are written as they are
(`Archive.ofFiles`), and read as they are or deflated.
-/

namespace Manuscript

/-- What the directory of an archive says about a file. -/
structure Archive.Entry where
  name : String
  method : Nat
  checksum : Nat
  packedSize : Nat
  size : Nat
  /-- Where the file starts, with a header of its own. -/
  place : Nat
  deriving DecidableEq, Repr, Inhabited

/-- The bytes of an archive with its directory. -/
structure Archive where
  bytes : ByteArray
  entries : List Archive.Entry
  deriving Inhabited

namespace Archive

/-- The letters that the header of a file starts with. -/
def fileMark : String := "PK\x03\x04"

/-- The letters that an entry of the directory starts with. -/
def entryMark : String := "PK\x01\x02"

/-- The letters that the end of an archive starts with. -/
def endMark : String := "PK\x05\x06"

/-- The number of bytes of the end of an archive without its comment. -/
def endSize : Nat := 22

/-- The most bytes of a comment. -/
def maxComment : Nat := 65535

/-- A number in an archive. -/
def number? (bs : ByteArray) (place count : Nat) : Option Nat :=
  Bytes.number? .little bs place count

/-- The name that some bytes stand for. -/
def nameOf (bs : ByteArray) : String :=
  (Text.decodeUtf8? bs).getD (Text.decodeBytewise bs)

/-! ## Reading -/

/-- Where the end of an archive is, sought from a place backwards. -/
def endPlace? (bs : ByteArray) (place : Nat) : Nat → Option Nat
  | 0 => none
  | fuel + 1 =>
    if Bytes.hasText bs place endMark then some place
    else if place = 0 then none
    else endPlace? bs (place - 1) fuel

/-- Reads the entries of a directory, which ends at `limit`. A file is `shift` bytes further on than
    the directory says. -/
def entries? (bs : ByteArray) (shift limit place : Nat) : Nat → Option (List Entry)
  | 0 => none
  | fuel + 1 =>
    if limit ≤ place then some []
    else if !Bytes.hasText bs place entryMark then none
    else do
      let field (offset count : Nat) := number? bs (place + offset) count
      let nameSize ← field 28 2
      let extraSize ← field 30 2
      let commentSize ← field 32 2
      let entry : Entry := {
        name := nameOf (← Bytes.slice? bs (place + 46) nameSize)
        method := ← field 10 2
        checksum := ← field 16 4
        packedSize := ← field 20 4
        size := ← field 24 4
        place := (← field 42 4) + shift }
      let rest ← entries? bs shift limit (place + 46 + nameSize + extraSize + commentSize) fuel
      return entry :: rest

/-- The archive that some bytes are. -/
def open? (bs : ByteArray) : Option Archive := do
  if bs.size < endSize then none
  let finish ← endPlace? bs (bs.size - endSize) (maxComment + 1)
  let size ← number? bs (finish + 12) 4
  let place ← number? bs (finish + 16) 4
  if finish < size + place then none
  let shift := finish - size - place
  return { bytes := bs, entries := ← entries? bs shift finish (place + shift) (bs.size + 1) }

/-- The entry of a name; of several the last one counts. -/
def find? (a : Archive) (name : String) : Option Entry :=
  a.entries.reverse.find? (·.name == name)

/-- The content of a file. -/
def content? (a : Archive) (e : Entry) : Option ByteArray := do
  if !Bytes.hasText a.bytes e.place fileMark then none
  let nameSize ← number? a.bytes (e.place + 26) 2
  let extraSize ← number? a.bytes (e.place + 28) 2
  if nameOf (← Bytes.slice? a.bytes (e.place + 30) nameSize) ≠ e.name then none
  let packed ← Bytes.slice? a.bytes (e.place + 30 + nameSize + extraSize) e.packedSize
  let content ← match e.method with
    | 0 => some packed
    | 8 => Deflate.expand? packed
    | _ => none
  if (Checksum.ofBytes content).toNat ≠ e.checksum then none
  return content

/-- The content of the file of a name. -/
def read (a : Archive) (name : String) : Except Fault ByteArray :=
  match a.find? name with
  | none => .error (.noSuchKey name)
  | some e =>
    match a.content? e with
    | some content => .ok content
    | none => .error (.malformed ("damaged file " ++ name))

/-! ## Writing -/

/-- The flag of a name that is not in ASCII letters. -/
def nameFlag (name : String) : Nat :=
  if name.toList.all (·.toNat < 0x80) then 0 else 0x800

/-- The fields that the header of a file and its entry in the directory share: the version that is
    needed, the flags, the method, the time and the date, the checksum, both sizes, and the size of
    the name. -/
def sharedFields (name : String) (content : ByteArray) : List UInt8 :=
  Bytes.little 2 20 ++ Bytes.little 2 (nameFlag name) ++ Bytes.little 2 0 ++ Bytes.little 2 0 ++
    -- the first day that a date can stand for
    Bytes.little 2 0x21 ++ Bytes.little 4 (Checksum.ofBytes content).toNat ++
    Bytes.little 4 content.size ++ Bytes.little 4 content.size ++
    Bytes.little 2 name.utf8ByteSize

/-- The header of a file. -/
def header (name : String) (content : ByteArray) : List UInt8 :=
  fileMark.toUTF8.toList ++ sharedFields name content ++ Bytes.little 2 0 ++ name.toUTF8.toList

/-- The entry of the directory for a file at a place. -/
def directoryEntry (name : String) (content : ByteArray) (place : Nat) : List UInt8 :=
  entryMark.toUTF8.toList ++ Bytes.little 2 20 ++ sharedFields name content ++
    List.replicate 12 0 ++ Bytes.little 4 place ++ name.toUTF8.toList

/-- Bytes with others after them. -/
def append (bs : ByteArray) (more : List UInt8) : ByteArray :=
  more.foldl .push bs

/-- The archive of some files, in their order. -/
def ofFiles (files : List (String × ByteArray)) : ByteArray :=
  let add : ByteArray × List UInt8 → String × ByteArray → ByteArray × List UInt8
    | (bs, directory), (name, content) =>
      (append bs (header name content) ++ content,
        directory ++ directoryEntry name content bs.size)
  let (bs, directory) := files.foldl add (.empty, [])
  append (append bs directory) (endMark.toUTF8.toList ++ List.replicate 4 0 ++
    Bytes.little 2 files.length ++ Bytes.little 2 files.length ++
    Bytes.little 4 directory.length ++ Bytes.little 4 bs.size ++ Bytes.little 2 0)

end Archive

end Manuscript
