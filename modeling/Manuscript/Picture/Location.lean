import Manuscript.Error.Fault
import Manuscript.Files.Path
import Manuscript.Text.Hex
import Manuscript.Text.Lowercase

/-!
# Where a picture is

A picture is given by an address. An address without a scheme is a path, and so is what follows the
scheme of a file; pictures elsewhere are not looked up. The part of an address that names a host has
to be well-formed even if nothing is looked up there.
-/

namespace Manuscript.Picture

/-- The control characters and the space that an address may have before it. -/
def isControl (c : Char) : Bool :=
  c.toNat ≤ 0x20

/-- The characters of a scheme after its first one, which is a letter. -/
def isSchemeChar (c : Char) : Bool :=
  c.isAlphanum || c == '+' || c == '-' || c == '.'

/-- An address without the blanks that count for nothing: those before it, and tabs and line
    ends. -/
def cleaned (s : String) : List Char :=
  (s.toList.dropWhile isControl).filter fun c => c != '\t' && c != '\r' && c != '\n'

/-- The scheme of an address, in small letters, and what follows it. -/
def splitScheme (cs : List Char) : String × List Char :=
  let lead := cs.takeWhile (· != ':')
  let isScheme := lead.length < cs.length && lead.head?.any Char.isAlpha && lead.all isSchemeChar
  if isScheme then ((String.ofList lead).toLower, cs.drop (lead.length + 1)) else ("", cs)

/-- The host of an address after its scheme, and what follows it. -/
def splitHost (cs : List Char) : List Char × List Char :=
  match cs with
  | '/' :: '/' :: rest =>
    let ends (c : Char) : Bool := c == '/' || c == '?' || c == '#'
    (rest.takeWhile (!ends ·), rest.dropWhile (!ends ·))
  | _ => ([], cs)

/-! ## Hosts -/

/-- Whether a text is a number of a host of the older kind: four bytes in decimal. -/
def isOldNumber (cs : List Char) : Bool :=
  let isByte (ds : List Char) : Bool :=
    !ds.isEmpty && ds.length ≤ 3 && ds.all Char.isDigit &&
      (ds.length == 1 || ds.head? != some '0') && (Text.ofRadix? 10 ds).any (· ≤ 255)
  let parts := cs.splitOn '.'
  parts.length == 4 && parts.all isByte

/-- Whether a text is a group of digits in a number of the newer kind. -/
def isGroup (cs : List Char) : Bool :=
  !cs.isEmpty && cs.length ≤ 4 && cs.all fun c => (Text.hexValue? c).isSome

/-- The groups of a number of the newer kind. The last two may be a number of the older kind. -/
def groups? (cs : List Char) : Option (List (List Char)) :=
  let parts := cs.splitOn ':'
  match parts.getLast? with
  | some last =>
    if last.contains '.' then
      if isOldNumber last then some (parts.dropLast ++ [['0'], ['0']]) else none
    else some parts
  | none => none

/-- Whether some groups are those of a number: eight of them, or fewer with a gap, of which there is
    at most one. A gap at an end has nothing on its other side. -/
def areGroups (parts : List (List Char)) : Bool :=
  let inner := (parts.drop 1).dropLast
  let left := parts.take (((inner.takeWhile (!·.isEmpty)).length) + 1)
  let right := parts.drop (left.length + 1)
  let side (ps : List (List Char)) (edge : Option (List Char)) : Option Nat :=
    if edge = some [] then if ps.length = 1 then some 0 else none
    else if ps.all isGroup then some ps.length else none
  if (inner.filter List.isEmpty).isEmpty then parts.length == 8 && parts.all isGroup
  else (inner.filter List.isEmpty).length == 1 &&
    match side left parts.head?, side right parts.getLast? with
    | some m, some n => m + n ≤ 7
    | _, _ => false

/-- Whether a text is a number of a host of the newer kind, with an optional zone. -/
def isNewNumber (cs : List Char) : Bool :=
  let number := cs.takeWhile (· != '%')
  let zone := cs.drop (number.length + 1)
  let hasZone := number.length < cs.length
  (!hasZone || (!zone.isEmpty && !zone.contains '%')) && !number.contains '/' &&
    (groups? number).any fun parts => 3 ≤ parts.length && parts.length ≤ 9 && areGroups parts

/-- Whether a text may stand between the brackets of a host. -/
def isBracketed (cs : List Char) : Bool :=
  match cs with
  | 'v' :: rest =>
    let digits := rest.takeWhile fun c => (Text.hexValue? c).isSome
    !digits.isEmpty && match rest.drop digits.length with
      | '.' :: c :: cs => !(c :: cs).contains '\n'
      | _ => false
  | _ => isNewNumber cs

/-- The characters that have one of the marks between the parts of an address as a plainer form. -/
def disguised : List Nat :=
  [0x2047, 0x2048, 0x2049, 0x2100, 0x2101, 0x2105, 0x2106, 0x2A74, 0xFE13, 0xFE16, 0xFE55, 0xFE56,
    0xFE5F, 0xFE6B, 0xFF03, 0xFF0F, 0xFF1A, 0xFF1F, 0xFF20]

/-- Checks the host of an address. -/
def checkHost (cs : List Char) : Except Fault Unit :=
  let opened := cs.contains '['
  let closed := cs.contains ']'
  if opened != closed then .error (.badValue "brackets of a host that do not match")
  else if opened ∧ !isBracketed ((cs.dropWhile (· != '[')).drop 1 |>.takeWhile (· != ']')) then
    .error (.badValue "not an address of a host")
  else if cs.any fun c => disguised.contains c.toNat then
    .error (.badValue "a host with marks in disguise")
  else .ok ()

/-! ## Paths -/

/-- The path that an address stands for, if it is one of a file here. -/
def path? (s : String) : Except Fault (Option Path) := do
  let (scheme, rest) := splitScheme (cleaned s)
  let (host, rest) := splitHost rest
  checkHost host
  if scheme ≠ "" ∧ scheme ≠ "file" then return none
  else if s.startsWith "file:" then
    return some (.ofText (.ofList (rest.takeWhile fun c => c != '#' && c != '?')))
  else return some (.ofText s)

/-- The path of a picture. A relative one leads on from the folder of the document. -/
def locate (base : Option Path) (s : String) : Except Fault (Option Path) := do
  return (← path? s).map fun p => (base.map fun b => b.join p).getD p

/-- The suffixes of the files that are taken for pictures. -/
def suffixes : List String :=
  [".png", ".jpg", ".jpeg", ".gif", ".bmp", ".tif", ".tiff"]

/-- Whether a file is taken for a picture, by its name. -/
def isSupported (p : Path) : Bool :=
  suffixes.contains (Text.lower p.suffix)

end Manuscript.Picture
