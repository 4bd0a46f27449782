import PageWalk.Word
import Std.Data.TreeMap

/-!
# Tree pseudo-LRU

The ways of a set are the leaves of a complete binary tree. A bit at each inner
node names the half that should be evicted next; an access turns the bits on its
path away from its way. Nodes are numbered in heap order from 1.
-/

namespace PageWalk.Replacement

/-- The node bits of all sets; a set bit names the upper half. -/
structure TreePlru where
  nodes : Std.TreeMap UInt32 Bool := ∅

namespace TreePlru

def bit (tree : TreePlru) (position : UInt32) : Bool :=
  tree.nodes.getD position false

/-- The number of a node's child: the upper one if `upper`. -/
def child (node : UInt32) (upper : Bool) : UInt32 :=
  node * 2 + (if upper then 1 else 0)

/-- Turns the bits away from `way`, from a node with `depth` levels below it. -/
def touchFrom (base way : UInt32) : (depth : Nat) → (node : UInt32) → TreePlru → TreePlru
  | 0, _, tree => tree
  | depth + 1, node, tree =>
      let upper := (way >>> UInt32.ofNat depth) &&& 1 == 1
      touchFrom base way depth (child node upper)
        { nodes := tree.nodes.insert (base + node) !upper }

/-- Follows the bits from a node with `depth` levels below it; `way` holds the
turns taken so far. -/
def descendFrom (tree : TreePlru) (base : UInt32) :
    (depth : Nat) → (node way : UInt32) → UInt32
  | 0, _, way => way
  | depth + 1, node, way =>
      let upper := tree.bit (base + node)
      descendFrom tree base depth (child node upper) (child way upper)

/-- The levels of the tree over a number of ways that is a power of two. -/
def depth (ways : UInt32) : Nat :=
  floorLogTwo ways.toUInt64

/-- Turns the bits of a set away from a way. -/
def access (tree : TreePlru) (ways set way : UInt32) : TreePlru :=
  touchFrom (set * ways) way (depth ways) 1 tree

/-- The way of a set that the bits lead to. -/
def victim (tree : TreePlru) (ways set : UInt32) : UInt32 :=
  descendFrom tree (set * ways) (depth ways) 1 0

end TreePlru

end PageWalk.Replacement
