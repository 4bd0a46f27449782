import PageWalk.Word
import Std.Data.TreeMap

/-!
# Least recently used

Every access stamps its way with the next number of one counter that all sets
share. The victim of a set is its way with the smallest stamp; ways that were never
accessed have stamp zero, and of equal stamps the lowest way is taken.
-/

namespace PageWalk.Replacement

/-- The stamps of the ways, set by set, and the counter they come from. -/
structure Lru where
  stamps : Std.TreeMap Nat Word := ∅
  clock : Word := 0

namespace Lru

def stamp (lru : Lru) (position : Nat) : Word :=
  lru.stamps.getD position 0

/-- Stamps a way of a set. -/
def access (lru : Lru) (ways set way : UInt32) : Lru where
  stamps := lru.stamps.insert (set * ways + way).toNat (lru.clock + 1)
  clock := lru.clock + 1

/-- The way of a set with the smallest stamp. -/
def victim (lru : Lru) (ways set : UInt32) : UInt32 :=
  let first := (set * ways).toNat
  let oldest := (List.range ways.toNat).foldl
    (fun best way => if lru.stamp (first + way) < lru.stamp (first + best) then way else best)
    0
  UInt32.ofNat oldest

end Lru

end PageWalk.Replacement
