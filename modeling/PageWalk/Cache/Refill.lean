import PageWalk.Cache.Basic

/-!
# Refills

Every block that a walker reads is offered to the cache. A pointer goes to the root
or the middle storage, a leaf or a page fault of level 0 or 1 to the superpages, and
a leaf block to the sectors. Refills are written at once, and every lookup of the
same region that is on its way is marked, so that a stale miss is tried again.
-/

namespace PageWalk.Cache

/-! ## The storages -/

def refillRoot (params : Params) (registers : Registers) (refill : Refill) (cache : Cache) :
    Outcome Cache :=
  let pte := refill.selected
  let (way, policy) := cache.rootPolicy.choose 0 fun way => (cache.rootLine way).tag.valid
  let line : PointerLine :=
    { tag := .ofRefill registers refill.request (regionTag refill.request.vpn 0) pte.global
      ppn := pte.ppn }
  { state :=
      { cache with
        roots := cache.roots.setIfInBounds way.toNat line
        rootPolicy := policy.access 0 way
        counters := { cache.counters with rootRefills := cache.counters.rootRefills + 1 } }
    notes := [cache.note params (.rootRefilled refill.request way pte)] }

def refillMiddle (params : Params) (registers : Registers) (refill : Refill) (cache : Cache) :
    Outcome Cache :=
  let pte := refill.selected
  let set := middleSet params refill.request.vpn
  let (way, policy) := cache.middlePolicy.choose set fun way =>
    (cache.middleLine params set way).tag.valid
  let line : PointerLine :=
    { tag := .ofRefill registers refill.request (regionTag refill.request.vpn 1) pte.global
      ppn := pte.ppn }
  let line := { line with code := cache.code.encode line.words }
  { state :=
      { cache with
        middles := cache.middles.setIfInBounds (middlePosition params set way) line
        middlePolicy := policy.access set way
        counters := { cache.counters with middleRefills := cache.counters.middleRefills + 1 } }
    notes := [cache.note params (.middleRefilled refill.request set way pte)] }

def allGlobal (block : Block) : Bool :=
  block.all fun word => (⟨word⟩ : Pte).global

def refillSector (params : Params) (registers : Registers) (refill : Refill) (cache : Cache) :
    Outcome Cache :=
  let mode := refill.request.mode
  let set := sectorSet params refill.request.vpn
  let (way, policy) := cache.sectorPolicy.choose set fun way =>
    (cache.sectorLine params set way).tag.valid
  let global := allGlobal refill.block
  let line : SectorLine :=
    { tag := .ofRefill registers refill.request (sectorTag refill.request.vpn) global
      slots := refill.block.map fun word => LeafSlot.ofPte mode params.addressBits ⟨word⟩ }
  let line := { line with code := cache.code.encode line.words }
  { state :=
      { cache with
        sectors := cache.sectors.setIfInBounds (sectorPosition params set way) line
        sectorPolicy := policy.access set way
        counters := { cache.counters with sectorRefills := cache.counters.sectorRefills + 1 } }
    notes := [cache.note params (.sectorRefilled refill.request set way global)] }

/-- Writes a superpage, or a page fault of an upper level. -/
def refillSuperpage (params : Params) (registers : Registers) (refill : Refill)
    (cache : Cache) : Outcome Cache :=
  let pte := refill.selected
  let (way, policy) := cache.superpagePolicy.choose 0 fun way =>
    (cache.superpageLine way).tag.valid
  let region := regionTag refill.request.vpn refill.level
  let line : SuperpageLine :=
    { tag := .ofRefill registers refill.request region pte.global
      level := refill.level
      ppn := pte.ppn
      permissions := pte.permissions
      translates := !pte.pageFaultAt refill.level }
  { state :=
      { cache with
        superpages := cache.superpages.setIfInBounds way.toNat line
        superpagePolicy := policy.access 0 way
        counters :=
          { cache.counters with superpageRefills := cache.counters.superpageRefills + 1 } }
    notes := [cache.note params (.superpageRefilled refill.request refill.level way pte)] }

/-! ## Lookups on their way -/

/-- The region that a refill of a level covers; a leaf refill covers its sector. -/
def refillRegion (vpn : Word) (level : Nat) : Word :=
  if level = leafLevel then sectorTag vpn else regionTag vpn level

def covers (refill : Refill) (request : Request) : Bool :=
  request.mode == refill.request.mode &&
    refillRegion request.vpn refill.level == refillRegion refill.request.vpn refill.level

/-- The bypass marks of a lookup after a refill. -/
def markBypass (refill : Refill) (lookup : Lookup) (bypass : Bypass) : Bypass :=
  if covers refill lookup.request then bypass.mark refill.level else bypass

/-- The answer after a refill: a miss turns stale if it missed what the refill
brought. -/
def markAnswer (refill : Refill) (answer : CacheAnswer) : CacheAnswer :=
  if !answer.hit && covers refill answer.lookup.request then
    let arrived : Bypass := Bypass.mark {} refill.level
    { answer with
      bypassed := answer.bypassed || arrived.isStale answer.hint.root answer.hint.middle }
  else
    answer

def markLookups (refill : Refill) (cache : Cache) : Cache :=
  { cache with
    waiting := cache.waiting.map fun stage =>
      { stage with bypass := markBypass refill stage.lookup stage.bypass }
    reading := cache.reading.map fun stage =>
      { stage with bypass := markBypass refill stage.lookup stage.bypass }
    checked := cache.checked.map fun stage =>
      { stage with bypass := markBypass refill stage.lookup stage.bypass }
    answer := cache.answer.map (markAnswer refill) }

/-! ## Refilling -/

def countDropped (cache : Cache) : Cache :=
  { cache with
    counters := { cache.counters with droppedRefills := cache.counters.droppedRefills + 1 } }

def store (params : Params) (registers : Registers) (refill : Refill) (cache : Cache) :
    Outcome Cache :=
  if refill.level < leafLevel then
    if refill.selected.isLeaf || refill.selected.pageFaultAt refill.level then
      refillSuperpage params registers refill cache
    else if refill.level = 0 then
      refillRoot params registers refill cache
    else
      refillMiddle params registers refill cache
  else if refill.level = leafLevel then
    refillSector params registers refill cache
  else
    .stop cache (.misuse params.cacheName (.refillLevel refill.level))

/-- Offers what a walker read. It is dropped in the step of a flush, and if the
entry that the walk goes on with names a page that cannot exist. -/
def refill (params : Params) (registers : Registers) (refill : Refill) (cache : Cache) :
    Outcome Cache :=
  if cache.flushed then
    { state := cache.countDropped
      notes := [cache.note params (.droppedInFlush refill.request refill.level)] }
  else
    let cache := { cache with refilled := true }
    if refill.request.mode.accessFault refill.selected params.addressBits then
      { state := cache.countDropped
        notes := [cache.note params
          (.droppedForAccessFault refill.request refill.level refill.selected)] }
    else
      (store params registers refill cache).andThen fun cache =>
        { state := markLookups refill cache }

end PageWalk.Cache
