import PageWalk.BoundedQueue
import PageWalk.Cache.Invalidate
import PageWalk.Cache.Pipeline
import PageWalk.Cache.Refill
import PageWalk.LeafWalker
import PageWalk.Memory
import PageWalk.StageTwoWalker
import PageWalk.UpperWalker

/-!
# The second-level TLB

The TLB owns the page cache and the three walkers, and reads page tables from a
memory. It takes lookups, routes what the cache finds, shares the memory among the
walkers, turns every block read into a refill, and gives one response for each
lookup, unless a fence or a register change flushes it.
-/

namespace PageWalk

structure TlbCounters where
  requests : Nat := 0
  responses : Nat := 0
  cacheResponses : Nat := 0
  parked : Nat := 0
  toUpper : Nat := 0
  toLeaf : Nat := 0
  stageTwoCacheHits : Nat := 0
  memoryRequests : Nat := 0
  staleBlocks : Nat := 0
  flushes : Nat := 0
deriving DecidableEq, Repr, Inhabited

structure Tlb where
  params : Params
  registers : Registers := {}
  protection : Protection
  memory : Memory
  cycle : Word := 0
  cache : Cache
  upper : UpperWalker := {}
  leaf : LeafWalker
  stageTwo : StageTwoWalker := {}
  /-- Lookups that were accepted and have not tried the cache. -/
  inputs : BoundedQueue Request
  /-- Lookups that have to try the cache again. -/
  misses : BoundedQueue Lookup
  /-- Second-stage walks that wait for their walker. -/
  guestPages : BoundedQueue StageTwoRequest
  /-- Responses that were not taken, oldest first. -/
  responses : List Response := []
  /-- Lookups in the cache, those for guest pages not counted. -/
  lookupsInCache : Nat := 0
  /-- Reads on their way, for each reader. -/
  reads : Array Nat
  /-- Those of them that belong to a walk that was flushed. -/
  staleReads : Array Nat
  counters : TlbCounters := {}

namespace Tlb

/-- Lookups that can wait for their first attempt. -/
def inputCapacity : Nat := 2

/-- At most one second-stage walk comes from the upper walker and one from the leaf
walker. -/
def guestPageCapacity : Nat := 2

/-- A TLB with nothing in its cache. -/
def create (params : Params) (protection : Protection) (memory : Memory) :
    Except Fault Tlb := do
  params.validate
  let cache ← Cache.create params
  let inputs ← BoundedQueue.create Request inputCapacity
  let misses ← BoundedQueue.create Lookup params.missQueueSize.toNat
  let guestPages ← BoundedQueue.create StageTwoRequest guestPageCapacity
  return {
    params := params
    protection := protection
    memory := memory
    cache := cache
    leaf := LeafWalker.create params
    inputs := inputs
    misses := misses
    guestPages := guestPages
    reads := Array.replicate params.readers 0
    staleReads := Array.replicate params.readers 0 }

def note (tlb : Tlb) (event : TlbEvent) : Note :=
  ⟨tlb.params.name, tlb.cycle, .tlb event⟩

def misuse (cause : Misuse) (tlb : Tlb) : Outcome Tlb :=
  .stop tlb (.misuse tlb.params.name cause)

/-! ## Views -/

/-- The lookups that a parked one must find room for. -/
def reserved (tlb : Tlb) : Nat :=
  tlb.inputs.size + tlb.misses.size + tlb.lookupsInCache

/-- A lookup can be accepted: every lookup accepted finds room to be parked. -/
def ready (tlb : Tlb) : Bool :=
  tlb.inputs.ready && tlb.reserved < tlb.params.missQueueSize.toNat

/-- Nothing is on its way, reads included. -/
def isIdle (tlb : Tlb) : Bool :=
  tlb.reads.all (· == 0) && !tlb.inputs.valid && !tlb.misses.valid && !tlb.guestPages.valid &&
    tlb.lookupsInCache == 0 && tlb.cache.isEmpty && tlb.upper.isIdle &&
    tlb.leaf.busyCount == 0 && tlb.stageTwo.isIdle

def ownStatistics (tlb : Tlb) : List Statistic :=
  let unit := tlb.params.name
  let counters := tlb.counters
  [.ofCount unit ".requests" "Number of lookups accepted" counters.requests,
    .ofCount unit ".responses" "Number of responses to the requester" counters.responses,
    .ofCount unit ".cacheResponses" "Number of responses served by the page cache"
      counters.cacheResponses,
    .ofCount unit ".missQueueEnqueues" "Number of lookups parked in the miss queue"
      counters.parked,
    .ofCount unit ".toPtw" "Number of misses sent to the PTW" counters.toUpper,
    .ofCount unit ".toLlptw" "Number of misses sent to the LLPTW from the cache"
      counters.toLeaf,
    .ofCount unit ".hptwCacheHits" "Number of stage-2 probes answered by the cache"
      counters.stageTwoCacheHits,
    .ofCount unit ".memRequests" "Number of memory requests sent" counters.memoryRequests,
    .ofCount unit ".staleMemResponses" "Number of memory responses dropped after a flush"
      counters.staleBlocks,
    .ofCount unit ".flushes" "Number of sfence or CSR flushes" counters.flushes]

def statistics (tlb : Tlb) : List Statistic :=
  tlb.memory.statistics ++ tlb.ownStatistics ++ tlb.cache.statistics tlb.params ++
    tlb.upper.statistics tlb.params ++ tlb.leaf.statistics tlb.params ++
    tlb.stageTwo.statistics tlb.params

/-! ## Lookups and responses -/

def send? (tlb : Tlb) (request : Request) : Option (Outcome Tlb) :=
  if tlb.ready then
    (tlb.inputs.send? request).map fun inputs =>
      { state :=
          { tlb with
            inputs := inputs
            counters := { tlb.counters with requests := tlb.counters.requests + 1 } }
        notes := [tlb.note (.accepted request)] }
  else
    none

/-- The oldest response and the TLB without it. -/
def receive? (tlb : Tlb) : Option (Response × Tlb) :=
  match tlb.responses with
  | [] => none
  | response :: responses => some (response, { tlb with responses := responses })

def peek (tlb : Tlb) : Except Fault Response :=
  match tlb.responses.head? with
  | some response => .ok response
  | none => .error (.misuse tlb.params.name .peekWithoutResponse)

def pop (tlb : Tlb) : Outcome Tlb :=
  match tlb.receive? with
  | some (_, tlb) => { state := tlb }
  | none => tlb.misuse .popWithoutResponse

def drain (tlb : Tlb) : List Response × Tlb :=
  (tlb.responses, { tlb with responses := [] })

/-! ## Flushes -/

/-- Drops every lookup and every walk. Reads on their way turn stale. -/
def flush (tlb : Tlb) : Tlb :=
  { tlb with
    cache := tlb.cache.flush
    upper := tlb.upper.flush
    leaf := tlb.leaf.flush
    stageTwo := tlb.stageTwo.flush
    inputs := tlb.inputs.flush
    misses := tlb.misses.flush
    guestPages := tlb.guestPages.flush
    lookupsInCache := 0
    staleReads := tlb.reads
    counters := { tlb.counters with flushes := tlb.counters.flushes + 1 } }

/-- Installs registers; a changed one flushes. -/
def install (registers : Registers) (tlb : Tlb) : Outcome Tlb :=
  let installed := { tlb with registers := registers.settled }
  if registers.changed then
    { state := installed.flush, notes := [tlb.note .registersChanged] }
  else
    { state := installed }

/-- Applies a fence to the cache, and flushes. -/
def fence (fence : Fence) (tlb : Tlb) : Outcome Tlb :=
  (Cache.fence tlb.params tlb.registers fence tlb.cache).map fun cache =>
    { tlb with cache := cache }.flush

def corrupt (level : Nat) (set way : UInt32) (tlb : Tlb) : Outcome Tlb :=
  (Cache.corrupt tlb.params level set way tlb.cache).map fun cache =>
    { tlb with cache := cache }

/-- Offers a read to the memory that no walker knows of. -/
def sendRead? (tlb : Tlb) (request : MemoryRequest) : Option (Outcome Tlb) :=
  (tlb.memory.send? request).map fun outcome =>
    outcome.map fun memory => { tlb with memory := memory }

end Tlb

end PageWalk
