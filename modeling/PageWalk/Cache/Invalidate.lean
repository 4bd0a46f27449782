import PageWalk.Cache.Basic

/-!
# Invalidation

A flush drops the lookups on their way. A fence also invalidates the lines that it
selects by their mode, by their address space or virtual machine, and, for leaves
and superpages, by the address that they cover.
-/

namespace PageWalk

def Fence.selectsMode (fence : Fence) (registers : Registers) (tag : LineTag) : Bool :=
  if fence.guestPhysical then
    tag.mode == .stageTwo
  else if fence.guestVirtual || registers.virtual then
    (tag.mode == .stageOne || tag.mode == .nested) && tag.vmid == registers.vmid
  else
    tag.mode == .direct

def Fence.selectsSpace (fence : Fence) (tag : LineTag) : Bool :=
  fence.everyIdentifier ||
    if fence.guestPhysical then
      tag.vmid == fence.identifier
    else
      tag.asid == fence.identifier && !tag.global

/-- Whether a fence invalidates a line. Only leaves and superpages, if they cover
its address, answer to a fence for one address. -/
def Fence.selects (fence : Fence) (registers : Registers) (tag : LineTag)
    (coversAddress : Bool) : Bool :=
  tag.valid && fence.selectsMode registers tag && (fence.everyAddress || coversAddress) &&
    fence.selectsSpace tag

namespace Cache

/-- Drops the lookups on their way; refills are dropped for the rest of the step. -/
def flush (cache : Cache) : Cache :=
  { cache with
    waiting := none
    reading := none
    checked := none
    answer := none
    flushed := true }

def fencesPointer (fence : Fence) (registers : Registers) (line : PointerLine) : Bool :=
  fence.selects registers line.tag false

def fencesSector (fence : Fence) (registers : Registers) (line : SectorLine) : Bool :=
  fence.selects registers line.tag (line.tag.region == sectorTag fence.vpn)

def fencesSuperpage (fence : Fence) (registers : Registers) (line : SuperpageLine) : Bool :=
  fence.selects registers line.tag (line.tag.region == regionTag fence.vpn line.level)

def fencedLines (fence : Fence) (registers : Registers) (cache : Cache) : Nat :=
  cache.roots.countP (fencesPointer fence registers) +
    cache.middles.countP (fencesPointer fence registers) +
    cache.sectors.countP (fencesSector fence registers) +
    cache.superpages.countP (fencesSuperpage fence registers)

def invalidate (fence : Fence) (registers : Registers) (cache : Cache) : Cache :=
  { cache with
    roots := cache.roots.map fun line =>
      if fencesPointer fence registers line then line.invalidate else line
    middles := cache.middles.map fun line =>
      if fencesPointer fence registers line then line.invalidate else line
    sectors := cache.sectors.map fun line =>
      if fencesSector fence registers line then line.invalidate else line
    superpages := cache.superpages.map fun line =>
      if fencesSuperpage fence registers line then line.invalidate else line }

def fence (params : Params) (registers : Registers) (fence : Fence) (cache : Cache) :
    Outcome Cache :=
  { state := invalidate fence registers cache.flush
    notes := [cache.note params (.fenced fence (fencedLines fence registers cache))] }

/-- Corrupts the first page number of a coded line without touching its code. -/
def corrupt (params : Params) (level : Nat) (set way : UInt32) (cache : Cache) :
    Outcome Cache :=
  if level = 1 then
    if params.middleSets ≤ set || params.middleWays ≤ way then
      .stop cache (.middleLine set way)
    else
      { state :=
          { cache with
            middles := cache.middles.modify (middlePosition params set way) fun line =>
              { line with ppn := line.ppn ^^^ 1 } } }
  else if level = 2 then
    if params.sectorSets ≤ set || params.sectorWays ≤ way then
      .stop cache (.sectorLine set way)
    else
      { state :=
          { cache with
            sectors := cache.sectors.modify (sectorPosition params set way) fun line =>
              let first := line.slots[0]
              { line with slots := line.slots.set 0 { first with ppn := first.ppn ^^^ 1 } } } }
  else
    .stop cache (.misuse params.cacheName (.uncodedLevel level))

end Cache

end PageWalk
