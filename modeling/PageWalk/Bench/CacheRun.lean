import PageWalk.Cache.Invalidate
import PageWalk.Cache.Pipeline
import PageWalk.Cache.Refill

/-!
# The cache on the bench

Lookups that are followed through the pipeline until they are answered.
-/

namespace PageWalk.Bench

def lookupLimit : Nat := 10

/-- A cache, the steps it was given, and whether it accepted the lookup. -/
structure CacheRun where
  cache : Cache
  accepted : Bool := false
  steps : Nat := 0
  answer : Option CacheAnswer := none

namespace CacheRun

def onCache (operation : Cache → Outcome Cache) (run : CacheRun) : Outcome CacheRun :=
  (operation run.cache).map fun cache => { run with cache := cache }

def await (params : Params) (registers : Registers) :
    (limit : Nat) → CacheRun → Outcome CacheRun
  | 0, run => { state := run }
  | limit + 1, run =>
      if run.cache.answer.isSome then
        { state := run }
      else
        (({ run with steps := run.steps + 1 } : CacheRun).onCache
          (Cache.tick params registers)).andThen (await params registers limit)

def take (params : Params) (run : CacheRun) : Outcome CacheRun :=
  match run.cache.answer with
  | none => { state := run }
  | some answer => ({ run with answer := some answer } : CacheRun).onCache (Cache.pop params)

def lookup (params : Params) (registers : Registers) (lookup : Lookup) (cache : Cache) :
    Outcome CacheRun :=
  let (accepted, sent) := Cache.send params lookup cache
  ((sent.map fun cache => { cache := cache, accepted := accepted }).andThen
    (await params registers lookupLimit)).andThen (take params)

end CacheRun

def refillAndTick (params : Params) (registers : Registers) (refill : Refill) (steps : Nat)
    (cache : Cache) : Outcome Cache :=
  (Cache.refill params registers refill cache).andThen
    (Outcome.iterate (Cache.tick params registers) steps)

/-- The block of a sector that maps to consecutive pages: the slot of `vpn` holds
the page `ppn`. -/
def linearBlock (vpn ppn flags : Word) : Block :=
  Vector.ofFn fun slot =>
    (Pte.make (ppn + (((vpn >>> 3) <<< 3) + UInt64.ofNat slot.val - vpn)) flags).raw

end PageWalk.Bench
