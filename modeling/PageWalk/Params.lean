import PageWalk.LineCode
import PageWalk.Replacement.Policy

/-!
# Parameters

Sizes of the cache and of the walkers, the policies of the storages, and the
limits that the walks observe. Sizes are 32-bit numbers.
-/

namespace PageWalk

structure Params where
  name : String := "l2tlb"
  /-- Root entries: pointers found at level 0, fully associative. -/
  rootSize : UInt32 := 16
  /-- Middle lines: pointers found at level 1. -/
  middleSets : UInt32 := 32
  middleWays : UInt32 := 2
  /-- Sector lines: blocks of eight leaves. -/
  sectorSets : UInt32 := 128
  sectorWays : UInt32 := 4
  /-- Superpages, and faults found at level 0 or 1, fully associative. -/
  superpageSize : UInt32 := 16
  rootPolicy : String := "plru"
  middlePolicy : String := "plru"
  sectorPolicy : String := "plru"
  superpagePolicy : String := "plru"
  /-- The code that protects middle and sector lines. -/
  code : String := "parity"
  /-- Storage cannot be read and written in the same step. -/
  singlePort : Bool := true
  /-- Entries of the leaf walker. -/
  leafWalkerSize : UInt32 := 6
  missQueueSize : UInt32 := 8
  /-- Bits of a physical address. -/
  addressBits : UInt32 := 36
  /-- Busy steps before a walker reports a timeout. -/
  timeoutThreshold : Word := 5000
  /-- Steps between a read and its block. -/
  memoryLatency : Word := 10
deriving DecidableEq, Repr, Inhabited

namespace Params

/-- Parameters small enough for scenarios built by hand. -/
def small : Params where
  name := "test"
  rootSize := 4
  middleSets := 4
  middleWays := 2
  sectorSets := 4
  sectorWays := 2
  superpageSize := 4
  leafWalkerSize := 4
  missQueueSize := 6
  memoryLatency := 4
  timeoutThreshold := 1000

/-- The reader number of the upper walker, right behind the leaf walker's entries. -/
def upperId (params : Params) : Nat :=
  params.leafWalkerSize.toNat

/-- The reader number of the second-stage walker. -/
def stageTwoId (params : Params) : Nat :=
  (params.leafWalkerSize + 1).toNat

def readers (params : Params) : Nat :=
  (params.leafWalkerSize + 2).toNat

/-- The first thing that makes the parameters unusable. The leaf walker needs an
entry for the miss in flight and one for a repeated prefetch. -/
def flaw? (params : Params) : Option ParamsFlaw :=
  let policies := [params.rootPolicy, params.middlePolicy, params.sectorPolicy,
    params.superpagePolicy]
  if params.rootSize == 0 || params.superpageSize == 0 then some .noAssociativeEntries
  else if params.middleWays == 0 || params.sectorWays == 0 then some .noWays
  else if !isPowerOfTwo params.middleSets.toUInt64 then some (.middleSets params.middleSets)
  else if !isPowerOfTwo params.sectorSets.toUInt64 then some (.leafSets params.sectorSets)
  else if params.leafWalkerSize < 2 then some (.leafWalkerSize params.leafWalkerSize)
  else if params.missQueueSize == 0 then some .noMissQueue
  else if params.addressBits ≤ pageOffsetBits || pageOffsetBits + ppnBits < params.addressBits
  then some (.addressBits params.addressBits)
  else match policies.find? fun policy => !Replacement.isKnown policy with
    | some policy => some (.policy policy)
    | none => if (LineCode.ofName? params.code).isNone then some (.code params.code) else none

def validate (params : Params) : Except Fault Unit :=
  match params.flaw? with
  | some flaw => .error (.params params.name flaw)
  | none => .ok ()

def cacheName (params : Params) : String := params.name ++ ".cache"
def upperName (params : Params) : String := params.name ++ ".ptw"
def leafName (params : Params) : String := params.name ++ ".llptw"
def stageTwoName (params : Params) : String := params.name ++ ".hptw"
def memoryName (params : Params) : String := params.name ++ ".mem"

end Params

end PageWalk
