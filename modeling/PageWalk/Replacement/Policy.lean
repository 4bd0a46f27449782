import PageWalk.Fault
import PageWalk.Replacement.Lru
import PageWalk.Replacement.TreePlru
import PageWalk.Replacement.Twister

/-!
# Replacement policies

A policy remembers the accesses to a storage of `sets` sets with `ways` ways each
and names the way to evict. A refill takes the lowest invalid way if there is one.
A fully associative storage is a single set.
-/

namespace PageWalk.Replacement

inductive History
  | lru (stamps : Lru)
  | treePlru (nodes : TreePlru)
  | random (generator : Twister)

def isKnown (name : String) : Bool :=
  name == "lru" || name == "plru" || name == "random"

end Replacement

open Replacement

structure ReplacementPolicy where
  sets : UInt32
  ways : UInt32
  history : Replacement.History

namespace ReplacementPolicy

/-- The policy of a storage, which must have at least one set and one way. -/
def ofHistory (sets ways : UInt32) (history : Replacement.History) :
    Except Fault ReplacementPolicy :=
  if sets == 0 || ways == 0 then .error .emptyPolicy else .ok ⟨sets, ways, history⟩

/-- The random policy with a seed of its own. -/
def createSeeded (sets ways : UInt32) (seed : Word) : Except Fault ReplacementPolicy :=
  ofHistory sets ways (.random (Twister.ofSeed seed))

/-- The policy of a name. The tree policy needs a power of two ways. -/
def create (name : String) (sets ways : UInt32) : Except Fault ReplacementPolicy := do
  if name = "lru" then
    ofHistory sets ways (.lru {})
  else if name = "plru" then
    let policy ← ofHistory sets ways (.treePlru {})
    if isPowerOfTwo ways.toUInt64 then .ok policy else .error (.treeWays ways)
  else if name = "random" then
    createSeeded sets ways Twister.defaultSeed
  else
    .error (.unknownPolicy name)

def access (policy : ReplacementPolicy) (set way : UInt32) : ReplacementPolicy :=
  match policy.history with
  | .lru stamps => { policy with history := .lru (stamps.access policy.ways set way) }
  | .treePlru nodes => { policy with history := .treePlru (nodes.access policy.ways set way) }
  | .random _ => policy

/-- The way of a set to evict next; a random policy draws it. -/
def victim (policy : ReplacementPolicy) (set : UInt32) : UInt32 × ReplacementPolicy :=
  match policy.history with
  | .lru stamps => (stamps.victim policy.ways set, policy)
  | .treePlru nodes => (nodes.victim policy.ways set, policy)
  | .random generator =>
      let (way, generator) := drawBelow policy.ways.toNat generator
      (UInt32.ofNat way, { policy with history := .random generator })

def firstInvalid (policy : ReplacementPolicy) (valid : Nat → Bool) : Option Nat :=
  (List.range policy.ways.toNat).find? fun way => !valid way

/-- The way of a set to refill: the lowest invalid one, else the policy's victim. -/
def choose (policy : ReplacementPolicy) (set : UInt32) (valid : Nat → Bool) :
    UInt32 × ReplacementPolicy :=
  match policy.firstInvalid valid with
  | some way => (UInt32.ofNat way, policy)
  | none => policy.victim set

/-- Evicts from a set: the victim, which then counts as accessed. -/
def evict (policy : ReplacementPolicy) (set : UInt32) : UInt32 × ReplacementPolicy :=
  let (way, policy) := policy.victim set
  (way, policy.access set way)

end ReplacementPolicy

end PageWalk
