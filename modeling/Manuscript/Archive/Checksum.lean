/-!
# Checksums

The cyclic redundancy check of 32 bits that archives keep of each of their files. The bits of a byte
are taken from its least one on, and so the polynomial is written in that order (`polynomial`).
-/

namespace Manuscript.Archive.Checksum

/-- The polynomial, its highest term left out. -/
def polynomial : UInt32 := 0xEDB88320

/-- The remainder after one more bit. -/
def step (r : UInt32) : UInt32 :=
  if r &&& 1 = 0 then r >>> 1 else (r >>> 1) ^^^ polynomial

/-- The remainder after a number of bits. -/
def steps : Nat → UInt32 → UInt32
  | 0, r => r
  | n + 1, r => steps n (step r)

/-- The remainders after eight bits, by their last byte. -/
def table : Array UInt32 :=
  (Array.range 256).map fun n => steps 8 n.toUInt32

/-- The remainder after one more byte. -/
def add (r : UInt32) (b : UInt8) : UInt32 :=
  table.getD ((r ^^^ b.toUInt32) &&& 0xff).toNat 0 ^^^ (r >>> 8)

/-- The checksum of some bytes. -/
def ofBytes (bs : ByteArray) : UInt32 :=
  bs.foldl add 0xFFFFFFFF ^^^ 0xFFFFFFFF

end Manuscript.Archive.Checksum
