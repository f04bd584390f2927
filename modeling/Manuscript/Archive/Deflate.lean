import Manuscript.Bytes

/-!
# Deflated bytes

Deflated bytes are a sequence of blocks. A block holds bytes as they are, or symbols in a prefix
code: a symbol is a byte, a copy of bytes that came before, or the end of the block. The code is
fixed, or is given in the block itself by the lengths of its words (`Code.ofLengths`).

Expanding ends on every input: each symbol and each block takes a bit at least, so that the number
of bits bounds both loops.
-/

namespace Manuscript.Archive.Deflate

/-! ## Bits -/

/-- A place among the bits of some bytes. The bits of a byte are taken from its least one on. -/
structure Bits where
  bytes : ByteArray
  place : Nat := 0
  deriving Inhabited

namespace Bits

/-- The next bit, and the place after it. -/
def next? (b : Bits) : Option (Bool × Bits) :=
  b.bytes.data[b.place / 8]?.map fun byte =>
    (byte.toNat.testBit (b.place % 8), { b with place := b.place + 1 })

/-- The number in the next bits, the least one first. -/
def number? (b : Bits) : Nat → Option (Nat × Bits)
  | 0 => some (0, b)
  | count + 1 => do
    let (bit, b) ← b.next?
    let (n, b) ← b.number? count
    return (bit.toNat + 2 * n, b)

/-- The place at the start of the next whole byte. -/
def align (b : Bits) : Bits :=
  { b with place := (b.place + 7) / 8 * 8 }

/-- The number of all bits. -/
def size (b : Bits) : Nat :=
  8 * b.bytes.size

end Bits

/-! ## Prefix codes -/

/-- A prefix code: a word leads through the branches to its symbol. -/
inductive Code
  | empty
  | symbol (value : Nat)
  | branch (zero one : Code)
  deriving Repr, Inhabited

namespace Code

/-- The code with a word for a symbol added. -/
def put (c : Code) (value : Nat) : List Bool → Code
  | [] => symbol value
  | bit :: word =>
    let (zero, one) := match c with
      | branch zero one => (zero, one)
      | _ => (empty, empty)
    if bit then branch zero (one.put value word) else branch (zero.put value word) one

/-- The bits of a word of a given length, the greatest one first. -/
def word : Nat → Nat → List Bool
  | 0, _ => []
  | length + 1, n => n.testBit length :: word length n

/-- The code whose words have the given lengths, for the symbols from zero on. Words are in the
    order of their lengths, and those of one length in the order of their symbols; a symbol of
    length zero has none. -/
def ofLengths (lengths : List Nat) : Code :=
  let used := (lengths.zipIdx.filter (·.1 != 0)).mergeSort fun a b => decide (a.1 ≤ b.1)
  let add : Code × Nat × Nat → Nat × Nat → Code × Nat × Nat
    | (c, next, last), (length, value) =>
      let next := next <<< (length - last)
      (c.put value (word length next), next + 1, length)
  (used.foldl add (empty, 0, 0)).1

/-- The symbol of the next word. -/
def decode? (c : Code) (b : Bits) : Option (Nat × Bits) :=
  match c with
  | empty => none
  | symbol value => some (value, b)
  | branch zero one => do
    let (bit, b) ← b.next?
    if bit then one.decode? b else zero.decode? b

end Code

/-! ## Symbols -/

/-- The least length of each of the length symbols, and the number of bits that are added to it. -/
def lengths : List (Nat × Nat) :=
  [(3, 0), (4, 0), (5, 0), (6, 0), (7, 0), (8, 0), (9, 0), (10, 0), (11, 1), (13, 1), (15, 1),
    (17, 1), (19, 2), (23, 2), (27, 2), (31, 2), (35, 3), (43, 3), (51, 3), (59, 3), (67, 4),
    (83, 4), (99, 4), (115, 4), (131, 5), (163, 5), (195, 5), (227, 5), (258, 0)]

/-- The least distance of a distance symbol, and the number of bits that are added to it. -/
def distance? (s : Nat) : Option (Nat × Nat) :=
  if s < 4 then some (s + 1, 0)
  else if s < 30 then some ((2 + s % 2) <<< (s / 2 - 1) + 1, s / 2 - 1)
  else none

/-- Copies a number of bytes from a distance before the end. -/
def copy (out : ByteArray) (distance : Nat) : Nat → ByteArray
  | 0 => out
  | n + 1 => copy (out.push (out.data.getD (out.size - distance) 0)) distance n

/-- Reads symbols until the one that ends a block. -/
def symbols? (literal distant : Code) (out : ByteArray) (b : Bits) :
    Nat → Option (ByteArray × Bits)
  | 0 => none
  | fuel + 1 => do
    let (s, b) ← literal.decode? b
    if s < 256 then symbols? literal distant (out.push s.toUInt8) b fuel
    else if s = 256 then return (out, b)
    else
      let (least, more) ← lengths[s - 257]?
      let (extra, b) ← b.number? more
      let (d, b) ← distant.decode? b
      let (nearest, further) ← distance? d
      let (beyond, b) ← b.number? further
      if out.size < nearest + beyond then none
      else symbols? literal distant (copy out (nearest + beyond) (least + extra)) b fuel

/-! ## Blocks -/

/-- The lengths of the words of the fixed code. -/
def fixedLengths : List Nat :=
  List.replicate 144 8 ++ List.replicate 112 9 ++ List.replicate 24 7 ++ List.replicate 8 8

/-- The order in which the lengths of the words for lengths are given. -/
def lengthOrder : List Nat :=
  [16, 17, 18, 0, 8, 7, 9, 6, 10, 5, 11, 4, 12, 3, 13, 2, 14, 1, 15]

/-- Reads a number of lengths of words; the lengths read so far are the last one first. -/
def wordLengths? (code : Code) (count : Nat) (read : List Nat) (b : Bits) :
    Nat → Option (List Nat × Bits)
  | 0 => none
  | fuel + 1 =>
    if read.length = count then some (read.reverse, b)
    else if count < read.length then none
    else do
      let (s, b) ← code.decode? b
      match s with
      | 16 =>
        let (n, b) ← b.number? 2
        wordLengths? code count (List.replicate (n + 3) (← read.head?) ++ read) b fuel
      | 17 =>
        let (n, b) ← b.number? 3
        wordLengths? code count (List.replicate (n + 3) 0 ++ read) b fuel
      | 18 =>
        let (n, b) ← b.number? 7
        wordLengths? code count (List.replicate (n + 11) 0 ++ read) b fuel
      | s => wordLengths? code count (s :: read) b fuel

/-- Reads a number of numbers of three bits. -/
def triples? (b : Bits) : Nat → Option (List Nat × Bits)
  | 0 => some ([], b)
  | count + 1 => do
    let (n, b) ← b.number? 3
    let (ns, b) ← triples? b count
    return (n :: ns, b)

/-- Reads the two codes that a block gives. -/
def codes? (b : Bits) : Option (Code × Code × Bits) := do
  let (literals, b) ← b.number? 5
  let (distances, b) ← b.number? 5
  let (count, b) ← b.number? 4
  let (given, b) ← triples? b (count + 4)
  let places := lengthOrder.zip given
  let code := Code.ofLengths ((List.range 19).map fun s => (places.lookup s).getD 0)
  let total := literals + 257 + (distances + 1)
  let (all, b) ← wordLengths? code total [] b (total + 1)
  return (Code.ofLengths (all.take (literals + 257)), Code.ofLengths (all.drop (literals + 257)), b)

/-- Reads bytes that are kept as they are. -/
def plain? (out : ByteArray) (b : Bits) : Option (ByteArray × Bits) := do
  let (count, b) ← b.align.number? 16
  let (check, b) ← b.number? 16
  if count + check ≠ 0xFFFF then none
  else
    let bytes ← Bytes.slice? b.bytes (b.place / 8) count
    return (out ++ bytes, { b with place := b.place + 8 * count })

/-- Reads blocks until the last one. -/
def blocks? (out : ByteArray) (b : Bits) : Nat → Option ByteArray
  | 0 => none
  | fuel + 1 => do
    let (last, b) ← b.next?
    let (kind, b) ← b.number? 2
    let (out, b) ← match kind with
      | 0 => plain? out b
      | 1 =>
        symbols? (.ofLengths fixedLengths) (.ofLengths (List.replicate 30 5)) out b (b.size + 1)
      | 2 => do
        let (literal, distant, b) ← codes? b
        symbols? literal distant out b (b.size + 1)
      | _ => none
    if last then return out else blocks? out b fuel

/-- The bytes that deflated ones stand for. -/
def expand? (bs : ByteArray) : Option ByteArray :=
  blocks? .empty { bytes := bs } (8 * bs.size + 1)

end Manuscript.Archive.Deflate
