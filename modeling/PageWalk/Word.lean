/-!
# Machine words

Addresses, page numbers and page-table entries are 64-bit words, and all
arithmetic on them is modulo `2 ^ 64`. This module holds the bit fields that the
rest of the library is written in.
-/

namespace PageWalk

/-- A 64-bit machine word: an address, a page number, an entry or a cycle count. -/
abbrev Word := UInt64

/-- The bits `low` to `high` of a word, both included, moved down to bit 0. -/
def bitSlice (word : Word) (low high : UInt32) : Word :=
  if 63 ≤ high then
    word >>> low.toUInt64
  else
    (word &&& ~~~((~~~(0 : Word)) <<< (high.toUInt64 + 1))) >>> low.toUInt64

/-- A word whose lowest `count` bits are set. -/
def lowMask (count : UInt32) : Word :=
  if 64 ≤ count then ~~~(0 : Word) else ((1 : Word) <<< count.toUInt64) - 1

/-- Whether exactly one bit of a word is set. -/
def isPowerOfTwo (word : Word) : Bool :=
  word != 0 && (word &&& (word - 1)) == 0

/-- The position of the highest set bit of a nonzero word. -/
def floorLogTwo (word : Word) : Nat :=
  word.toNat.log2

/-- A number below a 32-bit size is itself a 32-bit number. -/
theorem toNat_ofNat_of_below {size : UInt32} {number : Nat} (below : number < size.toNat) :
    (UInt32.ofNat number).toNat = number :=
  UInt32.toNat_ofNat_of_lt' (Nat.lt_trans below size.toNat_lt)

end PageWalk
