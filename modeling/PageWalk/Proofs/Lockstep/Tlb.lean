import PageWalk.Proofs.Lockstep.Cache
import PageWalk.Proofs.Lockstep.Memory
import PageWalk.Proofs.Tlb.Between

/-!
# TLBs in lockstep

Two TLBs that agree in everything but what they have counted, and in that one of them
still has reads from before a flush on its way, do the same in every phase of a step.
Those reads are dropped when they are answered, and they are answered before any other.
-/

namespace PageWalk.Tlb

open Outcome (Matched)

/-! ## Two TLBs -/

/-- Two TLBs agree on all that is on its way but the `old` reads, which only the first
one has, and their cycles suffice for `left` steps. Both have given the same responses
since they had given `first` and `second`. -/
structure Mirrors (first second : List Response) (left : Nat) (old : List PendingRead)
    (tlb other : Tlb) : Prop where
  params : other.params = tlb.params
  registers : other.registers = tlb.registers
  protection : other.protection = tlb.protection
  memory : Memory.Trails left old tlb.memory other.memory
  cache : tlb.cache.Twins other.cache
  upper : tlb.upper.Twins other.upper
  leaf : tlb.leaf.Twins other.leaf
  stageTwo : tlb.stageTwo.Twins other.stageTwo
  inputs : other.inputs = tlb.inputs
  misses : other.misses = tlb.misses
  guestPages : other.guestPages = tlb.guestPages
  lookupsInCache : other.lookupsInCache = tlb.lookupsInCache
  responses : ∃ given, tlb.responses = first ++ given ∧ other.responses = second ++ given

variable {first second : List Response} {left : Nat} {old : List PendingRead}
variable {tlb other : Tlb}

/-- The memory has answered a reader that the counters cannot number. -/
def Overflowed (params : Params) (fault : Option Fault) : Prop :=
  UInt32.size ≤ params.leafWalkerSize.toNat + 2 ∧
    ∃ id, params.readers ≤ id ∧
      fault = some (.misuse params.name (.memoryIdOverflow id))

namespace Mirrors

/-! ### Parts -/

theorem onCache
    (mirrors : Mirrors first second left old tlb other) {operation : Cache → Outcome Cache}
    (matched : Matched Cache.Twins (operation tlb.cache) (operation other.cache)) :
    Matched (Mirrors first second left old) (tlb.onCache operation) (other.onCache operation) :=
  matched.map fun _ _ next => { mirrors with cache := next }

theorem onUpper
    (mirrors : Mirrors first second left old tlb other)
    {operation : UpperWalker → Outcome UpperWalker}
    (matched : Matched UpperWalker.Twins (operation tlb.upper) (operation other.upper)) :
    Matched (Mirrors first second left old) (tlb.onUpper operation) (other.onUpper operation) :=
  matched.map fun _ _ next => { mirrors with upper := next }

theorem onLeaf
    (mirrors : Mirrors first second left old tlb other)
    {operation : LeafWalker → Outcome LeafWalker}
    (matched : Matched LeafWalker.Twins (operation tlb.leaf) (operation other.leaf)) :
    Matched (Mirrors first second left old) (tlb.onLeaf operation) (other.onLeaf operation) :=
  matched.map fun _ _ next => { mirrors with leaf := next }

theorem onStageTwo
    (mirrors : Mirrors first second left old tlb other)
    {operation : StageTwoWalker → Outcome StageTwoWalker}
    (matched :
      Matched StageTwoWalker.Twins (operation tlb.stageTwo) (operation other.stageTwo)) :
    Matched (Mirrors first second left old) (tlb.onStageTwo operation)
      (other.onStageTwo operation) :=
  matched.map fun _ _ next => { mirrors with stageTwo := next }

theorem misuse (mirrors : Mirrors first second left old tlb other) (cause : Misuse) :
    Matched (Mirrors first second left old) (tlb.misuse cause) (other.misuse cause) := by
  refine ⟨mirrors, ?_⟩
  simp only [Tlb.misuse, Outcome.stop, mirrors.params]

theorem count
    (mirrors : Mirrors first second left old tlb other) (change : TlbCounters → TlbCounters) :
    Mirrors first second left old (tlb.count change) (other.count change) :=
  { mirrors with }

theorem respond (mirrors : Mirrors first second left old tlb other) (response : Response) :
    Mirrors first second left old (tlb.respond response) (other.respond response) := by
  obtain ⟨given, before, otherBefore⟩ := mirrors.responses
  refine { mirrors with responses := ⟨given ++ [response], ?_, ?_⟩ }
  · simp only [Tlb.respond, before, List.append_assoc]
  · simp only [Tlb.respond, otherBefore, List.append_assoc]

/-! ### Blocks from memory -/

theorem awaitsBlock (mirrors : Mirrors first second left old tlb other) (id : Nat) :
    other.awaitsBlock id = tlb.awaitsBlock id := by
  simp only [Tlb.awaitsBlock, UpperWalker.awaitedAddress?, StageTwoWalker.awaitedAddress?,
    LeafWalker.awaitsBlock, mirrors.params, mirrors.upper.state, mirrors.stageTwo.state,
    mirrors.leaf.entry]

private theorem eq_of_getD
    {counts others : Array Nat} (size : others.size = counts.size)
    (same : ∀ id < counts.size, others.getD id 0 = counts.getD id 0) : others = counts := by
  apply Array.ext size
  intro id inside insideCounts
  have here := same id insideCounts
  simpa [Array.getD, inside, insideCounts] using here

/-- Once the old reads are answered, both TLBs count the same reads. -/
private theorem accounts
    (mirrors : Mirrors first second left [] tlb other) {before otherBefore : Nat}
    (reads : ReadsTracked before tlb) (otherReads : ReadsTracked otherBefore other) :
    other.reads = tlb.reads ∧ other.staleReads = tlb.staleReads := by
  have params := mirrors.params
  have counted (id : Nat) (inside : id < tlb.params.readers) :
      other.reads.getD id 0 = tlb.reads.getD id 0 := by
    have account := reads.accounts id inside
    have otherAccount := otherReads.accounts id (by rw [params]; exact inside)
    rw [← otherAccount.counted, ← account.counted, Memory.length_serials,
      Memory.length_serials, mirrors.memory.count id]
    simp
  constructor
  · refine eq_of_getD ?_ fun id inside => counted id ?_
    · rw [otherReads.readers, reads.readers, params]
    · rw [← reads.readers]
      exact inside
  · refine eq_of_getD ?_ fun id inside => ?_
    · rw [otherReads.staleReaders, reads.staleReaders, params]
    · rw [reads.staleReaders] at inside
      have live := (reads.accounts id inside).live
      have otherLive := (otherReads.accounts id (by rw [params]; exact inside)).live
      rw [counted id inside, mirrors.awaitsBlock] at otherLive
      omega

/-- The oldest of the old reads is stale. -/
private theorem stale_of_old
    {read : PendingRead} (mirrors : Mirrors first second left (read :: old) tlb other)
    {before otherBefore : Nat} (reads : ReadsTracked before tlb)
    (otherReads : ReadsTracked otherBefore other) (inside : read.id < tlb.params.readers) :
    0 < tlb.staleReads.getD read.id 0 := by
  have account := reads.accounts read.id inside
  have otherAccount := otherReads.accounts read.id (by rw [mirrors.params]; exact inside)
  have live := account.live
  have otherLive := otherAccount.live
  have count := mirrors.memory.count read.id
  rw [← Memory.length_serials, ← Memory.length_serials, account.counted,
    otherAccount.counted] at count
  rw [mirrors.awaitsBlock] at otherLive
  simp only [List.filter_cons, beq_self_eq_true, if_true, List.length_cons] at count
  omega

private theorem accounted
    (mirrors : Mirrors first second left old tlb other)
    (reads staleReads otherReads otherStaleReads : Array Nat) :
    Mirrors first second left old
      { tlb with reads := reads, staleReads := staleReads }
      { other with reads := otherReads, staleReads := otherStaleReads } :=
  { mirrors with }

private theorem refillCache
    (mirrors : Mirrors first second left old tlb other)
    (flushed : other.cache.flushed = tlb.cache.flushed) (refill : Option Refill) :
    Matched (Mirrors first second left old) (tlb.refillCache refill)
      (other.refillCache refill) := by
  unfold Tlb.refillCache
  rw [mirrors.params, mirrors.registers]
  cases refill with
  | none => exact ⟨mirrors, rfl⟩
  | some refill => exact mirrors.onCache (mirrors.cache.refill flushed _ _ refill)

/-- Refills are taken by both TLBs, or dropped by both. -/
private def Refills (first second : List Response) (left : Nat) (old : List PendingRead)
    (tlb other : Tlb) : Prop :=
  Mirrors first second left old tlb other ∧ other.cache.flushed = tlb.cache.flushed

private theorem deliverBlock
    (mirrors : Mirrors first second left old tlb other)
    (flushed : other.cache.flushed = tlb.cache.flushed) (id : Nat) (block : Block) :
    Matched (Mirrors first second left old) (tlb.deliverBlock id block)
      (other.deliverBlock id block) := by
  unfold Tlb.deliverBlock
  rw [mirrors.params, mirrors.registers, mirrors.upper.refill, mirrors.leaf.refill,
    mirrors.stageTwo.refill]
  have weaken (state twin : Tlb) (both : Refills first second left old state twin) :
      Mirrors first second left old state twin := both.1
  split
  · refine Matched.andThenInto (Matched.map (mirrors.upper.takeBlock _ _ block) ?_) weaken ?_
    · exact fun _ _ next => ⟨{ mirrors with upper := next }, flushed⟩
    · exact fun _ _ both => both.1.refillCache both.2 _
  · split
    · refine Matched.andThenInto (Matched.map (mirrors.stageTwo.takeBlock _ _ block) ?_) weaken ?_
      · exact fun _ _ next => ⟨{ mirrors with stageTwo := next }, flushed⟩
      · exact fun _ _ both => both.1.refillCache both.2 _
    · refine Matched.andThenInto (Matched.map (mirrors.leaf.takeBlock _ _ block) ?_) weaken ?_
      · exact fun _ _ next => ⟨{ mirrors with leaf := next }, flushed⟩
      · exact fun _ _ both => both.1.refillCache both.2 _

private theorem acceptReply
    (mirrors : Mirrors first second left old tlb other) (reads : other.reads = tlb.reads)
    (stale : other.staleReads = tlb.staleReads)
    (flushed : other.cache.flushed = tlb.cache.flushed) (reply : MemoryReply) :
    Matched (Mirrors first second left old) (acceptReply reply tlb)
      (acceptReply reply other) := by
  unfold Tlb.acceptReply
  rw [reads, stale]
  split
  · exact mirrors.misuse _
  · exact mirrors.misuse _
  · dsimp only
    split
    · exact ⟨{ mirrors with }, rfl⟩
    · let reads := tlb.reads.modify reply.id (· - 1)
      have arrived := mirrors.accounted reads tlb.staleReads reads tlb.staleReads
      exact arrived.deliverBlock flushed _ _

/-- Once the old reads are answered, both TLBs take the same block. -/
private theorem receiveBoth
    (mirrors : Mirrors first second left [] tlb other) (reads : other.reads = tlb.reads)
    (stale : other.staleReads = tlb.staleReads)
    (flushed : other.cache.flushed = tlb.cache.flushed ∨ other.memory.pending = []) :
    Matched (Mirrors first second left []) tlb.receiveBlock other.receiveBlock := by
  have replies := mirrors.memory.dueReply
  unfold receiveBlock Memory.receive?
  rw [replies]
  cases due : tlb.memory.dueReply? with
  | none => exact ⟨mirrors, rfl⟩
  | some reply =>
      have same : other.cache.flushed = tlb.cache.flushed := by
        refine flushed.resolve_right fun empty => ?_
        rw [due] at replies
        simp [Memory.dueReply?, empty] at replies
      have taken :
          Mirrors first second left []
            { tlb with memory := tlb.memory.dropOldest }
            { other with memory := other.memory.dropOldest } :=
        { mirrors with memory := mirrors.memory.dropOldest }
      have accepted := taken.acceptReply reads stale same reply
      exact ⟨accepted.states, accepted.faults⟩

/-- An old read is dropped while the other TLB waits; otherwise both take the same
block. -/
theorem receiveBlock
    (mirrors : Mirrors first second left old tlb other) (rested : tlb.Rested)
    (otherRested : other.Rested)
    (flushed : other.cache.flushed = tlb.cache.flushed ∨ other.memory.pending = []) :
    (∃ older, Matched (Mirrors first second left older) tlb.receiveBlock other.receiveBlock) ∨
      Overflowed tlb.params tlb.receiveBlock.fault := by
  obtain ⟨before, coherent⟩ := rested.coherent
  obtain ⟨otherBefore, otherCoherent⟩ := otherRested.coherent
  cases old with
  | nil =>
      obtain ⟨reads, stale⟩ := mirrors.accounts coherent.reads otherCoherent.reads
      exact Or.inl ⟨[], mirrors.receiveBoth reads stale flushed⟩
  | cons read older =>
      have waits := mirrors.memory.waits rested.timely (List.cons_ne_nil read older)
      have same : other.receiveBlock = { state := other } := by
        unfold Tlb.receiveBlock Memory.receive?
        rw [waits]
        rfl
      obtain ⟨rest, pending, -⟩ := mirrors.memory.pending
      obtain ⟨ticket, tracked⟩ := coherent.pages
      have received := receiveBlock_cases coherent.reads tracked.upper tracked.stageTwo
      rw [same]
      generalize tlb.receiveBlock = outcome at received
      cases received with
      | nothing _ state uneventful =>
          refine Or.inl ⟨read :: older, ?_, uneventful.running.symm⟩
          rw [state]
          exact mirrors
      | overflow found _ oldest outside _ fault =>
          have member : found ∈ tlb.memory.pending := by
            rw [oldest]
            exact List.mem_cons_self
          have known := coherent.reads.known found member
          exact Or.inr ⟨Params.wraps_of_overflow known outside, found.id, outside, fault⟩
      | stale found _ oldest _ _ _ state uneventful =>
          rw [pending] at oldest
          cases oldest
          refine Or.inl ⟨older, ?_, uneventful.running.symm⟩
          rw [state]
          exact { mirrors with memory := mirrors.memory.dropOld }
      | live found _ oldest inside fresh =>
          rw [pending] at oldest
          cases oldest
          have stale := mirrors.stale_of_old coherent.reads otherCoherent.reads inside
          omega

/-! ### Second-stage results -/

private theorem deliverStageTwo
    (mirrors : Mirrors first second left old tlb other) (id : Nat) (result : StageTwoResult) :
    Matched (Mirrors first second left old) (tlb.deliverStageTwo id result)
      (other.deliverStageTwo id result) := by
  refine Matched.andThen ⟨mirrors, rfl⟩ fun state twin next => ?_
  rw [next.params, next.registers]
  split
  · exact next.onUpper (next.upper.takeStageTwo _ _ result)
  · split
    · exact next.misuse _
    · exact next.onLeaf (next.leaf.takeStageTwo _ id result)

theorem routeReply (mirrors : Mirrors first second left old tlb other) :
    Matched (Mirrors first second left old) tlb.routeReply other.routeReply := by
  unfold Tlb.routeReply
  rw [mirrors.stageTwo.reply, mirrors.params]
  cases tlb.stageTwo.reply? with
  | none => exact ⟨mirrors, rfl⟩
  | some reply =>
      refine (mirrors.onStageTwo (mirrors.stageTwo.takeReply _)).andThen fun _ _ next => ?_
      exact next.deliverStageTwo reply.id reply.result

/-! ### Leaf walks -/

theorem dispatch (mirrors : Mirrors first second left old tlb other) :
    Matched (Mirrors first second left old) tlb.dispatch other.dispatch := by
  unfold Tlb.dispatch
  rw [mirrors.upper.dispatch, mirrors.leaf.ready, mirrors.params]
  cases tlb.upper.dispatch? with
  | none => exact ⟨mirrors, rfl⟩
  | some leaf =>
      dsimp only
      split
      · refine (mirrors.onLeaf (mirrors.leaf.accept _ leaf)).andThen fun _ _ next => ?_
        rw [next.params]
        exact next.onUpper (next.upper.takeDispatch _)
      · exact ⟨mirrors, rfl⟩

/-! ### Answers of the cache -/

private theorem park (mirrors : Mirrors first second left old tlb other) (request : Request) :
    Matched (Mirrors first second left old) (tlb.park request) (other.park request) := by
  unfold Tlb.park
  rw [mirrors.misses]
  split
  · exact ⟨{ mirrors with misses := rfl }, rfl⟩
  · exact mirrors.misuse _

private theorem routeProbe
    (mirrors : Mirrors first second left old tlb other) (answer : CacheAnswer) :
    Matched (Mirrors first second left old) (tlb.routeProbe answer) (other.routeProbe answer) := by
  unfold Tlb.routeProbe
  rw [mirrors.guestPages]
  split
  · exact (mirrors.count _).deliverStageTwo _ _
  · dsimp only
    split
    · exact ⟨{ mirrors with guestPages := rfl }, rfl⟩
    · exact mirrors.misuse _

private theorem routeLookup
    (mirrors : Mirrors first second left old tlb other) (answer : CacheAnswer) :
    Matched (Mirrors first second left old) (tlb.routeLookup answer)
      (other.routeLookup answer) := by
  unfold Tlb.routeLookup
  rw [mirrors.leaf.ready, mirrors.upper.ready, mirrors.params, mirrors.registers]
  dsimp only
  split
  · exact ⟨{ mirrors.respond (responseOfHit answer) with }, rfl⟩
  · split
    · exact mirrors.park _
    · split
      · split
        · exact (mirrors.onLeaf (mirrors.leaf.accept _ _)).map fun _ _ next => next.count _
        · exact mirrors.park _
      · split
        · exact (mirrors.onUpper (mirrors.upper.accept _ _ _)).map fun _ _ next => next.count _
        · exact mirrors.park _

theorem routeAnswer (mirrors : Mirrors first second left old tlb other) :
    Matched (Mirrors first second left old) tlb.routeAnswer other.routeAnswer := by
  unfold Tlb.routeAnswer
  rw [mirrors.cache.answer, mirrors.params]
  cases tlb.cache.answer with
  | none => exact ⟨mirrors, rfl⟩
  | some answer =>
      refine (mirrors.onCache (mirrors.cache.pop _)).andThen fun state twin next => ?_
      rw [next.lookupsInCache]
      split
      · exact next.routeProbe answer
      · split
        · exact next.misuse _
        · have released :
              Mirrors first second left old
                { state with lookupsInCache := state.lookupsInCache - 1 }
                { twin with lookupsInCache := state.lookupsInCache - 1 } :=
            { next with lookupsInCache := rfl }
          exact released.routeLookup answer

/-! ### Finished walks -/

theorem collectUpper (mirrors : Mirrors first second left old tlb other) :
    Matched (Mirrors first second left old) tlb.collectUpper other.collectUpper := by
  unfold Tlb.collectUpper
  rw [mirrors.upper.response, mirrors.params]
  cases tlb.upper.response? with
  | none => exact ⟨mirrors, rfl⟩
  | some response =>
      refine (mirrors.onUpper (mirrors.upper.takeResponse _)).andThen fun _ _ next => ?_
      exact ⟨next.respond response, rfl⟩

theorem collectLeaf (mirrors : Mirrors first second left old tlb other) :
    Matched (Mirrors first second left old) tlb.collectLeaf other.collectLeaf := by
  unfold Tlb.collectLeaf
  rw [mirrors.leaf.finishedIndex, mirrors.leaf.entry, mirrors.params, mirrors.registers]
  cases tlb.leaf.finishedIndex? with
  | none => exact ⟨mirrors, rfl⟩
  | some index =>
      refine (mirrors.onLeaf (mirrors.leaf.takeFinished _)).andThen fun _ _ next => ?_
      exact ⟨next.respond _, rfl⟩

/-! ### Steps of the walkers -/

theorem tickWalkers (mirrors : Mirrors first second left old tlb other) :
    Matched (Mirrors first second left old) tlb.tickWalkers other.tickWalkers := by
  unfold Tlb.tickWalkers
  rw [mirrors.params, mirrors.registers, mirrors.protection]
  refine (mirrors.onUpper (mirrors.upper.tick _ _ _)).andThen fun _ _ next => ?_
  rw [next.params, next.protection]
  refine (next.onLeaf (next.leaf.tick _ _)).andThen fun _ _ last => ?_
  rw [last.params, last.registers, last.protection]
  exact last.onStageTwo (last.stageTwo.tick _ _ _)

/-! ### Arbitration -/

private theorem nextRead (mirrors : Mirrors first second left old tlb other) :
    other.nextRead? = tlb.nextRead? := by
  simp only [nextRead?, mirrors.params, mirrors.upper.memoryRequest,
    mirrors.leaf.memoryRequest, mirrors.stageTwo.memoryRequest]

private theorem fireRead (mirrors : Mirrors first second left old tlb other) :
    Matched (Mirrors first second left old) tlb.fireRead other.fireRead := by
  unfold Tlb.fireRead
  rw [mirrors.upper.memoryRequest, mirrors.leaf.memoryRequest, mirrors.params]
  split
  · exact mirrors.onUpper (mirrors.upper.fireMemory _)
  · split
    · exact mirrors.onLeaf (mirrors.leaf.fireMemory _)
    · exact mirrors.onStageTwo (mirrors.stageTwo.fireMemory _)

theorem sendRead (mirrors : Mirrors first second (left + 1) old tlb other) :
    Matched (Mirrors first second (left + 1) old) tlb.sendRead other.sendRead := by
  unfold Tlb.sendRead Memory.send?
  rw [mirrors.nextRead, mirrors.memory.accepted]
  cases tlb.nextRead? with
  | none => exact ⟨mirrors, rfl⟩
  | some request =>
      dsimp only
      by_cases accepted : tlb.memory.accepted = true
      · simp only [if_pos accepted]
        exact ⟨mirrors, rfl⟩
      · simp only [if_neg accepted]
        refine Matched.andThen ⟨?_, rfl⟩ fun _ _ next => ?_
        · exact { mirrors with memory := mirrors.memory.accept request }
        · exact next.fireRead.andThen fun _ _ fired => ⟨{ fired with }, rfl⟩

theorem startGuestPage (mirrors : Mirrors first second left old tlb other) :
    Matched (Mirrors first second left old) tlb.startGuestPage other.startGuestPage := by
  unfold Tlb.startGuestPage
  rw [mirrors.guestPages, mirrors.stageTwo.ready, mirrors.params, mirrors.registers]
  split
  · split
    · refine (mirrors.onStageTwo (mirrors.stageTwo.accept _ _ _)).map fun _ _ next => ?_
      exact { next with guestPages := congrArg BoundedQueue.tail next.guestPages }
    · exact ⟨mirrors, rfl⟩
  · exact ⟨mirrors, rfl⟩

private theorem offer
    (mirrors : Mirrors first second left old tlb other) (lookup : Lookup)
    {accepted : Tlb → Outcome Tlb}
    (after : ∀ state twin, Mirrors first second left old state twin →
      Matched (Mirrors first second left old) (accepted state) (accepted twin)) :
    Matched (Mirrors first second left old) (Tlb.offer lookup accepted tlb)
      (Tlb.offer lookup accepted other) := by
  have sent := mirrors.cache.send tlb.params lookup
  have same : Cache.send other.params = Cache.send tlb.params := by
    rw [mirrors.params]
  unfold Tlb.offer
  rw [same]
  generalize Cache.send tlb.params lookup tlb.cache = result at sent ⊢
  generalize Cache.send tlb.params lookup other.cache = otherResult at sent ⊢
  obtain ⟨taken, outcome⟩ := result
  obtain ⟨otherTaken, otherOutcome⟩ := otherResult
  obtain ⟨agreed, matched⟩ := sent
  dsimp only at agreed matched ⊢
  have fed :
      Matched (Mirrors first second left old)
        (outcome.map fun cache => { tlb with cache := cache })
        (otherOutcome.map fun cache => { other with cache := cache }) :=
    matched.map fun _ _ next => { mirrors with cache := next }
  rw [agreed]
  split
  · exact fed.andThen after
  · exact fed

theorem feedCache (mirrors : Mirrors first second left old tlb other) :
    Matched (Mirrors first second left old) tlb.feedCache other.feedCache := by
  have leafPage : other.leafPage? = tlb.leafPage? := by
    simp only [leafPage?, mirrors.leaf.wantsStageTwo, mirrors.leaf.stageTwoRequest]
  unfold Tlb.feedCache
  rw [mirrors.upper.stageTwoRequest, mirrors.params, leafPage, mirrors.misses, mirrors.inputs]
  split
  · refine mirrors.offer _ fun _ _ next => ?_
    rw [next.params]
    exact next.onUpper (next.upper.fireStageTwo _)
  · refine mirrors.offer _ fun _ _ next => ?_
    rw [next.params]
    exact next.onLeaf (next.leaf.fireStageTwo _)
  · refine mirrors.offer _ fun _ _ next => ⟨?_, rfl⟩
    exact
      { next with
        misses := congrArg BoundedQueue.tail next.misses
        lookupsInCache := congrArg (· + 1) next.lookupsInCache }
  · refine mirrors.offer _ fun _ _ next => ⟨?_, rfl⟩
    exact
      { next with
        inputs := congrArg BoundedQueue.tail next.inputs
        lookupsInCache := congrArg (· + 1) next.lookupsInCache }
  · exact ⟨mirrors, rfl⟩

/-! ### The end of a step -/

theorem tickCache (mirrors : Mirrors first second left old tlb other) :
    Matched (Mirrors first second left old)
      (tlb.onCache (Cache.tick tlb.params tlb.registers))
      (other.onCache (Cache.tick other.params other.registers)) := by
  rw [mirrors.params, mirrors.registers]
  exact mirrors.onCache (mirrors.cache.tick _ _)

theorem endStep (mirrors : Mirrors first second (left + 1) old tlb other) :
    Matched (Mirrors first second left old) tlb.endStep other.endStep :=
  ⟨{ mirrors with memory := mirrors.memory.tick }, rfl⟩

/-- The phases between the reply of the memory and the end of the step. -/
private def walking : List (Tlb → Outcome Tlb) :=
  [Tlb.routeReply, Tlb.dispatch, Tlb.routeAnswer, Tlb.collectUpper, Tlb.collectLeaf,
    Tlb.tickWalkers, Tlb.sendRead, Tlb.startGuestPage, Tlb.feedCache,
    fun tlb => tlb.onCache (Cache.tick tlb.params tlb.registers)]

private theorem walk
    (mirrors : Mirrors first second (left + 1) old tlb other) {phase : Tlb → Outcome Tlb}
    (member : phase ∈ walking) :
    Matched (Mirrors first second (left + 1) old) (phase tlb) (phase other) := by
  simp only [walking, List.mem_cons, List.not_mem_nil, or_false] at member
  rcases member with rfl | rfl | rfl | rfl | rfl | rfl | rfl | rfl | rfl | rfl
  · exact mirrors.routeReply
  · exact mirrors.dispatch
  · exact mirrors.routeAnswer
  · exact mirrors.collectUpper
  · exact mirrors.collectLeaf
  · exact mirrors.tickWalkers
  · exact mirrors.sendRead
  · exact mirrors.startGuestPage
  · exact mirrors.feedCache
  · exact mirrors.tickCache

theorem fewer
    {fewer : Nat} (mirrors : Mirrors first second left old tlb other) (less : fewer ≤ left) :
    Mirrors first second fewer old tlb other :=
  { mirrors with memory := mirrors.memory.fewer less }

/-- A step does the same to both TLBs, but for the reads from before the flush. -/
theorem tick
    (mirrors : Mirrors first second (left + 1) old tlb other) (rested : tlb.Rested)
    (otherRested : other.Rested)
    (flushed : other.cache.flushed = tlb.cache.flushed ∨ other.memory.pending = []) :
    (∃ older, Matched (Mirrors first second left older) tlb.tick other.tick) ∨
      Overflowed tlb.params tlb.tick.fault := by
  have parts (tlb : Tlb) :
      tlb.tick =
        tlb.receiveBlock.andThen
          (Outcome.forEach (fun phase tlb => phase tlb) (walking ++ [Tlb.endStep])) := rfl
  rw [parts, parts]
  rcases mirrors.receiveBlock rested otherRested flushed with ⟨older, matched⟩ | overflowed
  · refine Or.inl ⟨older, matched.andThenInto ?_ fun state twin next => ?_⟩
    · exact fun _ _ next => next.fewer (Nat.le_succ left)
    · rw [Outcome.forEach_append, Outcome.forEach_append]
      have walked :
          Matched (Mirrors first second (left + 1) older)
            (Outcome.forEach (fun phase tlb => phase tlb) walking state)
            (Outcome.forEach (fun phase tlb => phase tlb) walking twin) :=
        Matched.forEach (fun _ member _ _ before => before.walk member) next
      refine walked.andThenInto ?_ fun _ _ last => ?_
      · exact fun _ _ next => next.fewer (Nat.le_succ left)
      · exact last.endStep.andThen fun _ _ ended => ⟨ended, rfl⟩
  · right
    obtain ⟨wraps, id, outside, fault⟩ := overflowed
    rw [Outcome.andThen_of_stopped _ fault]
    exact ⟨wraps, id, outside, fault⟩

end Mirrors

end PageWalk.Tlb
