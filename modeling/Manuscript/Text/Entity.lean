import Manuscript.Text.Entity.Names

/-!
# Character references

A reference stands for a character by its code in base ten or sixteen, or by a name, and ends with a
semicolon (`Entity.decode`). A name that is not known is read as the longest known name that it
begins with, and what follows stays. Codes that are no characters are replaced or left out.
-/

namespace Manuscript.Text.Entity

/-- The value of a digit in base sixteen. -/
def hexValue? (c : Char) : Option Nat :=
  if c.isDigit then some (c.toNat - 0x30)
  else if 'a' ≤ c ∧ c ≤ 'f' then some (c.toNat - 0x57)
  else if 'A' ≤ c ∧ c ≤ 'F' then some (c.toNat - 0x37)
  else none

/-- The number with the given digits in a base. -/
def ofDigits (base : Nat) (ds : List Nat) : Nat :=
  ds.foldl (fun n d => n * base + d) 0

/-- The number that digits of base sixteen stand for. -/
def ofHex (cs : List Char) : Nat :=
  ofDigits 16 (cs.filterMap hexValue?)

/-- The characters that the old code page for western text has at 128 and on, where it has any. -/
def westernCodes : List Nat := [
  0x20ac, 0x81, 0x201a, 0x192, 0x201e, 0x2026, 0x2020, 0x2021, 0x2c6, 0x2030, 0x160, 0x2039, 0x152,
  0x8d, 0x17d, 0x8f, 0x90, 0x2018, 0x2019, 0x201c, 0x201d, 0x2022, 0x2013, 0x2014, 0x2dc, 0x2122,
  0x161, 0x203a, 0x153, 0x9d, 0x17e, 0x178]

/-- The character of a code: none for codes that stand for nothing. -/
def ofCode (n : Nat) : List Char :=
  if n = 0 then ['\ufffd']
  else if n = 0x0d then ['\r']
  else if 0x80 ≤ n ∧ n ≤ 0x9f then [Char.ofNat (westernCodes.getD (n - 0x80) n)]
  else if (0xd800 ≤ n ∧ n ≤ 0xdfff) ∨ 0x10ffff < n then ['\ufffd']
  else if (n ≤ 8) ∨ n = 0x0b ∨ (0x0e ≤ n ∧ n ≤ 0x1f) ∨ n = 0x7f ∨ (0xfdd0 ≤ n ∧ n ≤ 0xfdef) ∨
      n % 0x10000 = 0xfffe ∨ n % 0x10000 = 0xffff then []
  else [Char.ofNat n]

/-- What an entry of the table stands for, if it is the one of the name. -/
def entryFor? (name : String) (entry : String) : Option (List Char) :=
  match entry.splitOn "=" with
  | [n, codes] =>
    if n == name then some ((codes.splitOn "+").map fun c => Char.ofNat (ofHex c.toList)) else none
  | _ => none

/-- What a name stands for. -/
def named? (name : List Char) : Option (List Char) :=
  let s := String.ofList name
  nameLines.findSome? fun line => (line.splitOn " ").findSome? (entryFor? s)

/-- What the longest known name at the beginning stands for, of those of up to `n` characters but at
    least two, and what follows it. -/
def longest (name : List Char) : Nat → Option (List Char)
  | 0 | 1 => none
  | n + 1 =>
    match named? (name.take (n + 1)) with
    | some cs => some (cs ++ name.drop (n + 1))
    | none => longest name n

/-- What a name with its semicolon is read as. -/
def ofName (name : List Char) : List Char :=
  match named? name with
  | some cs => cs
  | none => (longest name (name.length - 1)).getD ('&' :: name)

/-- Reads a reference after its ampersand: what it stands for, and what follows it. -/
def reference? (cs : List Char) : Option (List Char × List Char) :=
  match cs with
  | '#' :: x :: rest =>
    if x = 'x' ∨ x = 'X' then
      let digits := rest.takeWhile fun c => (hexValue? c).isSome
      match digits, rest.drop digits.length with
      | _ :: _, ';' :: after => some (ofCode (ofHex digits), after)
      | _, _ => none
    else
      let digits := (x :: rest).takeWhile Char.isDigit
      match digits, (x :: rest).drop digits.length with
      | _ :: _, ';' :: after =>
        if digits.length ≤ 7 then
          some (ofCode (ofDigits 10 (digits.map fun c => c.toNat - 0x30)), after)
        else none
      | _, _ => none
  | _ =>
    let name := cs.takeWhile fun c => !("\t\n\x0c <&#;".toList.contains c)
    match name, cs.drop name.length with
    | _ :: _, ';' :: after =>
      if name.length ≤ 32 then some (ofName (name ++ [';']), after) else none
    | _, _ => none

/-- Decodes the references of a text of at most `fuel` characters. -/
def decodeWith (fuel : Nat) (cs : List Char) : List Char :=
  match fuel, cs with
  | fuel + 1, '&' :: rest =>
    match reference? rest with
    | some (decoded, after) => decoded ++ decodeWith fuel after
    | none => '&' :: decodeWith fuel rest
  | fuel + 1, c :: rest => c :: decodeWith fuel rest
  | _, _ => []

/-- The text with its references replaced by what they stand for. -/
def decode (cs : List Char) : List Char :=
  decodeWith cs.length cs

end Manuscript.Text.Entity
