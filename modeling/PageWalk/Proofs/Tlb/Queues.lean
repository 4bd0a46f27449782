import PageWalk.Proofs.Cache.Stock
import PageWalk.Proofs.Tlb.Phases

/-!
# Room in the queues

A lookup from outside has a place reserved among the parked ones from when it is accepted
until it leaves the queues and the cache. Every way in which a lookup moves keeps the
reservation, whatever the walkers do at the same time.
-/

namespace PageWalk.Tlb

variable {tlb after : Tlb}

/-! ## States with the same queues -/

/-- No lookup moved into or out of a queue or the cache, and the configuration stays. -/
structure SameQueues (tlb after : Tlb) : Prop where
  params : after.params = tlb.params
  protection : after.protection = tlb.protection
  inputs : after.inputs = tlb.inputs
  misses : after.misses = tlb.misses
  pageCapacity : after.guestPages.capacity = tlb.guestPages.capacity
  count : after.lookupsInCache = tlb.lookupsInCache
  lookups : after.cache.lookups = tlb.cache.lookups

theorem SameQueues.refl (tlb : Tlb) : SameQueues tlb tlb :=
  ⟨rfl, rfl, rfl, rfl, rfl, rfl, rfl⟩

theorem QueuesTracked.of_same
    (queues : QueuesTracked tlb) (same : SameQueues tlb after) : QueuesTracked after where
  missCapacity := by rw [same.misses, same.params]; exact queues.missCapacity
  pageCapacity := same.pageCapacity.trans queues.pageCapacity
  parked := by rw [same.misses]; exact queues.parked
  counted := by rw [same.count, same.lookups]; exact queues.counted
  room := by
    unfold reserved
    rw [same.inputs, same.misses, same.count, same.params]
    exact queues.room

/-! ## A new TLB -/

theorem create_spec
    {params : Params} {protection : Protection} {memory : Memory} {tlb : Tlb}
    (created : Tlb.create params protection memory = .ok tlb) :
    ∃ cache inputs misses guestPages,
      Cache.create params = .ok cache ∧ inputs.elements = [] ∧ misses.elements = [] ∧
        misses.capacity = params.missQueueSize.toNat ∧ guestPages.elements = [] ∧
        guestPages.capacity = guestPageCapacity ∧
        tlb =
          { params := params
            protection := protection
            memory := memory
            cache := cache
            leaf := LeafWalker.create params
            inputs := inputs
            misses := misses
            guestPages := guestPages
            reads := Array.replicate params.readers 0
            staleReads := Array.replicate params.readers 0 } := by
  unfold Tlb.create at created
  simp only [bind, Except.bind, pure, Except.pure] at created
  split at created
  · cases created
  · split at created
    · cases created
    · rename_i cache caching
      split at created
      · cases created
      · rename_i inputs first
        split at created
        · cases created
        · rename_i misses second
          split at created
          · cases created
          · rename_i guestPages third
            cases created
            have empty {Element : Type} {capacity : Nat} {queue : BoundedQueue Element}
                (made : BoundedQueue.create Element capacity = .ok queue) :
                queue.elements = [] ∧ queue.capacity = capacity := by
              unfold BoundedQueue.create at made
              split at made
              · cases made
              · cases made
                exact ⟨rfl, rfl⟩
            exact ⟨cache, inputs, misses, guestPages, caching, (empty first).1,
              (empty second).1, (empty second).2, (empty third).1, (empty third).2, rfl⟩

/-- The queues of a new TLB are empty. -/
theorem queuesTracked_of_create
    {params : Params} {protection : Protection} {memory : Memory}
    (created : Tlb.create params protection memory = .ok tlb) : QueuesTracked tlb := by
  obtain ⟨cache, inputs, misses, guestPages, caching, noInput, noMiss, missCapacity, -,
    pageCapacity, rfl⟩ := create_spec created
  refine
    { missCapacity := missCapacity
      pageCapacity := pageCapacity
      parked := ?_
      counted := ?_
      room := ?_ }
  · intro lookup member
    simp only [noMiss, List.not_mem_nil] at member
  · simp only [Cache.lookups_of_create caching]
    rfl
  · simp only [reserved, BoundedQueue.size, noInput, noMiss, List.length_nil]
    exact Nat.zero_le _

/-! ## Lookups that are accepted and dropped -/

/-- A lookup is accepted only while there is a place to reserve. -/
theorem QueuesTracked.send
    (queues : QueuesTracked tlb) (ready : tlb.ready = true) {request : Request}
    {inputs : BoundedQueue Request} (sent : tlb.inputs.send? request = some inputs)
    (counters : TlbCounters) :
    QueuesTracked { tlb with inputs := inputs, counters := counters } := by
  have space : tlb.reserved < tlb.params.missQueueSize.toNat := by
    unfold Tlb.ready at ready
    rw [Bool.and_eq_true, decide_eq_true_eq] at ready
    exact ready.2
  have size : inputs.size = tlb.inputs.size + 1 := by
    unfold BoundedQueue.size
    rw [(elements_of_send sent).1, List.length_append, List.length_singleton]
  refine { queues with room := ?_ }
  unfold reserved at space ⊢
  dsimp only
  omega

theorem QueuesTracked.flush
    (queues : QueuesTracked tlb) (registers : Registers) (cache : Cache) :
    QueuesTracked (Tlb.flush { tlb with registers := registers, cache := cache }) where
  missCapacity := queues.missCapacity
  pageCapacity := queues.pageCapacity
  parked _ member := by cases member
  counted := rfl
  room := Nat.zero_le _

/-! ## Lookups that come out of the cache -/

/-- The translation of a guest page has no place reserved. -/
theorem QueuesTracked.popped
    (queues : QueuesTracked tlb) {answer : CacheAnswer}
    (found : tlb.cache.answer = some answer) (probe : answer.lookup.probe = true) :
    QueuesTracked (tlb.popped answer) := by
  have counted := queues.counted
  rw [lookups_of_answer found, unprobed_cons_of_probe probe] at counted
  exact { queues with counted := counted }

/-- A lookup that comes out of the cache leaves its place free. -/
theorem QueuesTracked.released
    (queues : QueuesTracked tlb) {answer : CacheAnswer}
    (found : tlb.cache.answer = some answer) (lookup : answer.lookup.probe = false) :
    QueuesTracked (tlb.released answer) ∧
      (tlb.released answer).reserved + 1 ≤ tlb.params.missQueueSize.toNat := by
  have counted := queues.counted
  rw [lookups_of_answer found, unprobed_cons_of_lookup lookup, List.length_cons] at counted
  have fewer : (tlb.released answer).lookupsInCache + 1 = tlb.lookupsInCache := by
    change tlb.lookupsInCache - 1 + 1 = tlb.lookupsInCache
    omega
  have room := queues.room
  have reserved : (tlb.released answer).reserved + 1 = tlb.reserved := by
    change tlb.inputs.size + tlb.misses.size + (tlb.released answer).lookupsInCache + 1 =
      tlb.inputs.size + tlb.misses.size + tlb.lookupsInCache
    omega
  rw [← reserved] at room
  refine ⟨{ queues with counted := ?_, room := Nat.le_of_succ_le room }, room⟩
  change (tlb.released answer).lookupsInCache =
    (unprobed (tlb.popped answer).cache.lookups).length
  omega

/-- A lookup is parked in a place that is free. -/
theorem QueuesTracked.park
    (queues : QueuesTracked tlb) (room : tlb.reserved + 1 ≤ tlb.params.missQueueSize.toNat)
    {misses : BoundedQueue Lookup} {request : Request}
    (elements : misses.elements = tlb.misses.elements ++ [{ request := request }])
    (capacity : misses.capacity = tlb.misses.capacity) :
    QueuesTracked { tlb with misses := misses } := by
  have size : misses.size = tlb.misses.size + 1 := by
    unfold BoundedQueue.size
    rw [elements, List.length_append, List.length_singleton]
  refine
    { queues with
      missCapacity := capacity.trans queues.missCapacity
      parked := ?_
      room := ?_ }
  · intro parked member
    rw [elements] at member
    rcases List.mem_append.1 member with before | here
    · exact queues.parked parked before
    · rw [List.mem_singleton.1 here]
  · unfold reserved at room ⊢
    dsimp only
    omega

theorem LookupRouted.queues
    {answer : CacheAnswer} {dropped : List Request}
    (routed : LookupRouted tlb answer after dropped) (queues : QueuesTracked tlb)
    (found : tlb.cache.answer = some answer) (lookup : answer.lookup.probe = false) :
    QueuesTracked after := by
  obtain ⟨released, room⟩ := queues.released found lookup
  cases routed with
  | hit | leaf | upper => exact { released with }
  | parked _ _ elements capacity => exact { released.park room elements capacity with }

/-! ## Lookups that go into the cache -/

theorem lookups_fed (free : tlb.cache.waiting = none) (lookup : Lookup) :
    (tlb.fed lookup).cache.lookups = tlb.cache.lookups ++ [lookup] :=
  Cache.lookups_of_accepted free lookup

theorem unprobed_fed_probe
    (free : tlb.cache.waiting = none) {lookup : Lookup} (probe : lookup.probe = true) :
    unprobed (tlb.fed lookup).cache.lookups = unprobed tlb.cache.lookups := by
  rw [lookups_fed free, unprobed_append, unprobed_cons_of_probe probe]
  exact List.append_nil _

theorem unprobed_fed_lookup
    (free : tlb.cache.waiting = none) {lookup : Lookup} (outside : lookup.probe = false) :
    unprobed (tlb.fed lookup).cache.lookups = unprobed tlb.cache.lookups ++ [lookup] := by
  rw [lookups_fed free, unprobed_append, unprobed_cons_of_lookup outside]
  rfl

theorem QueuesTracked.feedProbe
    (queues : QueuesTracked tlb) (free : tlb.cache.waiting = none) (request : StageTwoRequest) :
    QueuesTracked (tlb.fed (probeOf request)) where
  missCapacity := queues.missCapacity
  pageCapacity := queues.pageCapacity
  parked := queues.parked
  counted := by
    rw [unprobed_fed_probe free rfl]
    exact queues.counted
  room := queues.room

/-- A lookup takes its place along from the queue in which it waited. -/
private theorem QueuesTracked.feedLookup
    (queues : QueuesTracked tlb) (free : tlb.cache.waiting = none) {lookup : Lookup}
    (outside : lookup.probe = false) {inputs : BoundedQueue Request}
    {misses : BoundedQueue Lookup} (capacity : misses.capacity = tlb.misses.capacity)
    (parked : ∀ other ∈ misses.elements, other.probe = false)
    (size : inputs.size + misses.size + 1 = tlb.inputs.size + tlb.misses.size) :
    QueuesTracked
      { tlb.fed lookup with
        inputs := inputs
        misses := misses
        lookupsInCache := tlb.lookupsInCache + 1 } where
  missCapacity := capacity.trans queues.missCapacity
  pageCapacity := queues.pageCapacity
  parked := parked
  counted := by
    dsimp only
    rw [unprobed_fed_lookup free outside, List.length_append, List.length_singleton,
      queues.counted]
  room := by
    have room := queues.room
    unfold reserved at room ⊢
    dsimp only [fed] at room ⊢
    omega

theorem CacheFed.queues (fed : CacheFed tlb after) (queues : QueuesTracked tlb) :
    QueuesTracked after := by
  cases fed with
  | nothing => exact { queues with }
  | upper request _ free | leaf request _ _ free => exact { queues.feedProbe free request with }
  | miss lookup oldest free =>
      refine queues.feedLookup free ?_ rfl ?_ ?_
      · exact queues.parked lookup (by rw [oldest]; exact List.mem_cons_self)
      · intro other member
        exact queues.parked other (by rw [oldest]; exact List.mem_cons_of_mem lookup member)
      · unfold BoundedQueue.size
        rw [oldest, List.length_cons]
        rfl
  | input request oldest free =>
      refine queues.feedLookup free rfl rfl queues.parked ?_
      change tlb.inputs.tail.size + tlb.misses.size + 1 = tlb.inputs.size + tlb.misses.size
      unfold BoundedQueue.size
      rw [oldest, List.length_cons]
      omega

end PageWalk.Tlb
