import PageWalk.Cache.Line
import PageWalk.Outcome
import PageWalk.Statistics

/-!
# The page cache

Four storages keep what walks have read: root and middle pointers, sectors of eight
leaves, and superpages. Middle and sector lines live in the set that their region
selects; the other two storages are fully associative. A lookup passes four stages,
and at most one lookup is in each: it waits, it is read, it is checked, and it is
answered.
-/

namespace PageWalk

/-! ## Lookups -/

structure Lookup where
  request : Request := {}
  /-- The first attempt of a request from outside. -/
  first : Bool := false
  /-- A guest page that a walker asks for. -/
  probe : Bool := false
  id : Nat := 0
deriving DecidableEq, Repr, Inhabited

/-- The levels at which a refill arrived while the lookup was on its way. -/
structure Bypass where
  root : Bool := false
  middle : Bool := false
  leaf : Bool := false
deriving DecidableEq, Repr, Inhabited

def Bypass.mark (bypass : Bypass) (level : Nat) : Bypass :=
  if level = 0 then { bypass with root := true }
  else if level = 1 then { bypass with middle := true }
  else { bypass with leaf := true }

/-- Whether a miss has to be tried again: a leaf refill always matters, a pointer
refill only if the lookup did not find that pointer itself. -/
def Bypass.isStale (bypass : Bypass) (rootHit middleHit : Bool) : Bool :=
  bypass.leaf || (bypass.middle && !middleHit) || (bypass.root && !rootHit)

/-- A lookup that waits for the storages to be read. -/
structure WaitingLookup where
  lookup : Lookup
  bypass : Bypass := {}
deriving DecidableEq, Repr

/-- The first way that served a lookup, and its line at that moment. -/
structure Hit (Line : Type) where
  way : Nat
  line : Line
deriving DecidableEq, Repr

/-- A lookup and what the storages held for it. -/
structure ReadLookup where
  lookup : Lookup
  bypass : Bypass := {}
  root : Option (Hit PointerLine) := none
  middle : Option (Hit PointerLine) := none
  sector : Option (Hit SectorLine) := none
  superpage : Option (Hit SuperpageLine) := none
deriving DecidableEq, Repr

/-- A lookup and the lines that passed the check of their code. -/
structure CheckedLookup where
  lookup : Lookup
  bypass : Bypass := {}
  root : Option PointerLine := none
  middle : Option PointerLine := none
  sector : Option SectorLine := none
  superpage : Option SuperpageLine := none
  /-- A line did not match its code. -/
  corrupted : Bool := false
deriving DecidableEq, Repr

/-- Whether a sector or a superpage serves the lookup. -/
def CheckedLookup.isHit (checked : CheckedLookup) : Bool :=
  checked.sector.isSome || checked.superpage.isSome

def CheckedLookup.event (checked : CheckedLookup) : CacheEvent :=
  .checked checked.lookup.request checked.root.isSome checked.middle.isSome
    checked.sector.isSome checked.superpage.isSome checked.corrupted

/-- Where a walk can resume after a miss: at the table page `ppn`. -/
structure WalkHint where
  root : Bool := false
  middle : Bool := false
  ppn : Word := 0
deriving DecidableEq, Repr, Inhabited

structure CacheAnswer where
  lookup : Lookup := {}
  hit : Bool := false
  sectorHit : Bool := false
  superpageHit : Bool := false
  prefetch : Bool := false
  /-- A miss, but a refill that matters to it arrived on the way. -/
  bypassed : Bool := false
  corrupted : Bool := false
  hint : WalkHint := {}
  stageOne : StageOneResult := .blank
  /-- The same answer as a second-stage result, if the lookup hit. -/
  stageTwo : StageTwoResult := {}
deriving DecidableEq, Repr

def CacheAnswer.event (answer : CacheAnswer) : CacheEvent :=
  let request := answer.lookup.request
  .responded request answer.hit answer.bypassed answer.hint.root answer.hint.middle
    (if answer.hit then answer.stageOne.translate request.vpn else answer.hint.ppn)

/-! ## The cache -/

structure CacheCounters where
  checked : Nat := 0
  rootHits : Nat := 0
  middleHits : Nat := 0
  sectorHits : Nat := 0
  superpageHits : Nat := 0
  hits : Nat := 0
  firstChecked : Nat := 0
  firstHits : Nat := 0
  prefetchChecked : Nat := 0
  prefetchHits : Nat := 0
  rootRefills : Nat := 0
  middleRefills : Nat := 0
  sectorRefills : Nat := 0
  superpageRefills : Nat := 0
  droppedRefills : Nat := 0
  corruptedSets : Nat := 0
  refusedInRefill : Nat := 0
  bypassed : Nat := 0
deriving DecidableEq, Repr, Inhabited

def CheckedLookup.count (checked : CheckedLookup) (counters : CacheCounters) : CacheCounters :=
  let hit := checked.isHit
  let first := checked.lookup.first
  let prefetch := checked.lookup.request.isPrefetch
  { counters with
    checked := counters.checked + 1
    rootHits := counters.rootHits + checked.root.isSome.toNat
    middleHits := counters.middleHits + checked.middle.isSome.toNat
    sectorHits := counters.sectorHits + checked.sector.isSome.toNat
    superpageHits := counters.superpageHits + checked.superpage.isSome.toNat
    hits := counters.hits + hit.toNat
    firstChecked := counters.firstChecked + first.toNat
    firstHits := counters.firstHits + (first && hit).toNat
    prefetchChecked := counters.prefetchChecked + prefetch.toNat
    prefetchHits := counters.prefetchHits + (prefetch && hit).toNat }

/-- The page cache. Middle and sector lines are kept set by set. -/
structure Cache where
  cycle : Word := 0
  roots : Array PointerLine
  middles : Array PointerLine
  sectors : Array SectorLine
  superpages : Array SuperpageLine
  rootPolicy : ReplacementPolicy
  middlePolicy : ReplacementPolicy
  sectorPolicy : ReplacementPolicy
  superpagePolicy : ReplacementPolicy
  code : LineCode
  waiting : Option WaitingLookup := none
  reading : Option ReadLookup := none
  checked : Option CheckedLookup := none
  answer : Option CacheAnswer := none
  /-- A refill was written in this step. -/
  refilled : Bool := false
  /-- A flush happened in this step; refills are dropped. -/
  flushed : Bool := false
  counters : CacheCounters := {}

namespace Cache

/-- An empty cache. Line counts are products of 32-bit sizes. -/
def create (params : Params) : Except Fault Cache := do
  let rootPolicy ← ReplacementPolicy.create params.rootPolicy 1 params.rootSize
  let middlePolicy ←
    ReplacementPolicy.create params.middlePolicy params.middleSets params.middleWays
  let sectorPolicy ←
    ReplacementPolicy.create params.sectorPolicy params.sectorSets params.sectorWays
  let superpagePolicy ←
    ReplacementPolicy.create params.superpagePolicy 1 params.superpageSize
  let code ← LineCode.create params.code
  return {
    roots := Array.replicate params.rootSize.toNat {}
    middles := Array.replicate (params.middleSets * params.middleWays).toNat {}
    sectors := Array.replicate (params.sectorSets * params.sectorWays).toNat {}
    superpages := Array.replicate params.superpageSize.toNat {}
    rootPolicy := rootPolicy
    middlePolicy := middlePolicy
    sectorPolicy := sectorPolicy
    superpagePolicy := superpagePolicy
    code := code }

def note (cache : Cache) (params : Params) (event : CacheEvent) : Note :=
  ⟨params.cacheName, cache.cycle, .cache event⟩

/-! ## Sets and lines -/

def middleSet (params : Params) (vpn : Word) : UInt32 :=
  (regionTag vpn 1 &&& (params.middleSets - 1).toUInt64).toUInt32

def sectorSet (params : Params) (vpn : Word) : UInt32 :=
  (sectorTag vpn &&& (params.sectorSets - 1).toUInt64).toUInt32

def middlePosition (params : Params) (set way : UInt32) : Nat :=
  (set * params.middleWays + way).toNat

def sectorPosition (params : Params) (set way : UInt32) : Nat :=
  (set * params.sectorWays + way).toNat

def rootLine (cache : Cache) (way : Nat) : PointerLine :=
  cache.roots.getD way {}

def middleLine (cache : Cache) (params : Params) (set : UInt32) (way : Nat) : PointerLine :=
  cache.middles.getD (middlePosition params set (UInt32.ofNat way)) {}

def sectorLine (cache : Cache) (params : Params) (set : UInt32) (way : Nat) : SectorLine :=
  cache.sectors.getD (sectorPosition params set (UInt32.ofNat way)) {}

def superpageLine (cache : Cache) (way : Nat) : SuperpageLine :=
  cache.superpages.getD way {}

def middleValid (cache : Cache) (params : Params) (set way : UInt32) : Except Fault Bool :=
  match cache.middles[middlePosition params set way]? with
  | some line => .ok line.tag.valid
  | none => .error .outOfRange

def sectorValid (cache : Cache) (params : Params) (set way : UInt32) : Except Fault Bool :=
  match cache.sectors[sectorPosition params set way]? with
  | some line => .ok line.tag.valid
  | none => .error .outOfRange

/-! ## Views -/

def validRoots (cache : Cache) : Nat :=
  cache.roots.countP (·.tag.valid)

def validMiddles (cache : Cache) : Nat :=
  cache.middles.countP (·.tag.valid)

def validSectors (cache : Cache) : Nat :=
  cache.sectors.countP (·.tag.valid)

def validSuperpages (cache : Cache) : Nat :=
  cache.superpages.countP (·.tag.valid)

def validAt (cache : Cache) (params : Params) (level : Nat) : Except Fault Nat :=
  if level = 0 then .ok cache.validRoots
  else if level = 1 then .ok cache.validMiddles
  else if level = 2 then .ok cache.validSectors
  else .error (.misuse params.cacheName (.unknownLevel level))

/-- The lookups on their way, from the oldest to the youngest. -/
def lookups (cache : Cache) : List Lookup :=
  (cache.answer.map (·.lookup)).toList ++ (cache.checked.map (·.lookup)).toList ++
    (cache.reading.map (·.lookup)).toList ++ (cache.waiting.map (·.lookup)).toList

/-- How many lookups are on their way, an answer that was not taken included. -/
def inflight (cache : Cache) : Nat :=
  cache.lookups.length

def isEmpty (cache : Cache) : Bool :=
  cache.inflight == 0

/-- Whether a lookup can be accepted in this step. With a single port, the step of a
refill accepts none. -/
def ready (cache : Cache) (params : Params) : Bool :=
  !(params.singlePort && cache.refilled) && cache.waiting.isNone

def statistics (cache : Cache) (params : Params) : List Statistic :=
  let unit := params.cacheName
  let counters := cache.counters
  [.ofCount unit ".access" "Number of lookups checked" counters.checked,
    .ofCount unit ".l1Hits" "Number of level 0 non-leaf hits" counters.rootHits,
    .ofCount unit ".l2Hits" "Number of level 1 non-leaf hits" counters.middleHits,
    .ofCount unit ".l3Hits" "Number of leaf sector hits" counters.sectorHits,
    .ofCount unit ".spHits" "Number of superpage or cached fault hits" counters.superpageHits,
    .ofCount unit ".pteHits" "Number of lookups answered without a walk" counters.hits,
    .ofCount unit ".firstAccess" "Number of first probes" counters.firstChecked,
    .ofCount unit ".firstPteHits" "Number of first probes answered without a walk"
      counters.firstHits,
    .ofCount unit ".prefetchAccess" "Number of prefetch lookups" counters.prefetchChecked,
    .ofCount unit ".prefetchPteHits" "Number of prefetch lookups answered"
      counters.prefetchHits,
    .ofCount unit ".l1Refills" "Number of L1 refills" counters.rootRefills,
    .ofCount unit ".l2Refills" "Number of L2 refills" counters.middleRefills,
    .ofCount unit ".l3Refills" "Number of L3 refills" counters.sectorRefills,
    .ofCount unit ".spRefills" "Number of superpage refills" counters.superpageRefills,
    .ofCount unit ".refillsDropped" "Number of refills ignored under flush or fault"
      counters.droppedRefills,
    .ofCount unit ".eccFlushes" "Number of sets flushed on ecc error" counters.corruptedSets,
    .ofCount unit ".rwHazards" "Number of lookups refused during a refill"
      counters.refusedInRefill,
    .ofCount unit ".bypassedResps" "Number of misses retried due to refill bypass"
      counters.bypassed]

end Cache

end PageWalk
