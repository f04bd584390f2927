/-!
# Numbers in bytes

Whole numbers are kept in a fixed number of bytes, in one of two orders: the least significant byte
first, or the most significant one.
-/

namespace Manuscript.Bytes

/-- The order of the bytes of a number. -/
inductive Order
  /-- The least significant byte comes first. -/
  | little
  /-- The most significant byte comes first. -/
  | big
  deriving DecidableEq, Repr, Inhabited

/-- The number of bytes in which the most significant one comes first. -/
def ofBig (bs : List UInt8) : Nat :=
  bs.foldl (fun n b => 256 * n + b.toNat) 0

/-- The number of bytes in an order. -/
def number (order : Order) (bs : List UInt8) : Nat :=
  match order with
  | .little => ofBig bs.reverse
  | .big => ofBig bs

/-- The bytes of a number, in a given count, the least significant one first. What does not fit in
    is dropped. -/
def little : Nat → Nat → List UInt8
  | 0, _ => []
  | count + 1, n => n.toUInt8 :: little count (n / 256)

/-- A part of some bytes: `count` of them from a place on, if there are so many. -/
def slice? (bs : ByteArray) (place count : Nat) : Option ByteArray :=
  if count = 0 ∨ place + count ≤ bs.size then some (bs.extract place (place + count)) else none

/-- The number in `count` bytes from a place on, if there are so many. -/
def number? (order : Order) (bs : ByteArray) (place count : Nat) : Option Nat :=
  (slice? bs place count).map fun part => number order part.toList

/-- Whether a text in ASCII letters stands at a place. -/
def hasText (bs : ByteArray) (place : Nat) (s : String) : Bool :=
  (slice? bs place s.utf8ByteSize).any fun part => part.toList == s.toUTF8.toList

end Manuscript.Bytes
