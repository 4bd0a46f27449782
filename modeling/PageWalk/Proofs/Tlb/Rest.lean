import PageWalk.Proofs.Tlb.Steps

/-!
# Lookups that come to rest

A lookup leaves the TLB with a response, or it is a prefetch that the leaf walker drops. Once
the TLB is idle, every lookup has left, no guest page is being translated, and no read is on
its way.
-/

namespace PageWalk.Tlb

variable {readsBefore : Nat} {tlb : Tlb}

/-! ## Lookups that are dropped -/

private theorem discarded_of_uneventful
    {kind : Request → Prop} {outcome : Outcome Tlb} (uneventful : outcome.Uneventful) :
    ∀ request ∈ outcome.discarded, kind request := by
  rw [uneventful.keeps]
  exact List.forall_mem_nil _

private theorem dispatch_discarded (tlb : Tlb) :
    ∀ request ∈ tlb.dispatch.discarded, request.isPrefetch = true := by
  have dispatched := (dispatch_cases tlb).1
  generalize tlb.dispatch.state = after at dispatched
  generalize tlb.dispatch.discarded = dropped at dispatched ⊢
  cases dispatched with
  | nothing => exact List.forall_mem_nil _
  | handed leaf _ ready => exact LeafWalker.accept_discarded tlb.params leaf ready

private theorem Coherent.routeAnswer_discarded (coherent : Coherent readsBefore tlb) :
    ∀ request ∈ tlb.routeAnswer.discarded, request.isPrefetch = true := by
  obtain ⟨ticket, tracked⟩ := coherent.pages
  have routed := (routeAnswer_cases tracked coherent.queues).1
  generalize tlb.routeAnswer.state = after at routed
  generalize tlb.routeAnswer.discarded = dropped at routed ⊢
  cases routed with
  | nothing => exact List.forall_mem_nil _
  | probe => exact List.forall_mem_nil _
  | lookup answer found lookup routed =>
      cases routed with
      | hit => exact List.forall_mem_nil _
      | parked => exact List.forall_mem_nil _
      | leaf _ _ _ ready => exact LeafWalker.accept_discarded tlb.params _ ready
      | upper => exact List.forall_mem_nil _

private theorem Coherent.receiveBlock_discarded (coherent : Coherent readsBefore tlb) :
    tlb.receiveBlock.discarded = [] := by
  obtain ⟨ticket, tracked⟩ := coherent.pages
  cases receiveBlock_cases coherent.reads tracked.upper tracked.stageTwo with
  | nothing _ _ uneventful => exact uneventful.keeps
  | overflow _ _ _ _ _ _ keeps => exact keeps
  | stale _ _ _ _ _ _ _ uneventful => exact uneventful.keeps
  | live _ _ _ _ _ _ _ uneventful => exact uneventful.keeps

private theorem Coherent.phase_discarded
    {phase : Tlb → Outcome Tlb} (member : phase ∈ phases) (coherent : Coherent readsBefore tlb) :
    ∀ request ∈ (phase tlb).discarded, request.isPrefetch = true := by
  obtain ⟨ticket, tracked⟩ := coherent.pages
  simp only [phases, List.mem_cons, List.not_mem_nil, or_false] at member
  rcases member with rfl | rfl | rfl | rfl | rfl | rfl | rfl | rfl | rfl | rfl | rfl | rfl
  · rw [coherent.receiveBlock_discarded]
    exact List.forall_mem_nil _
  · exact discarded_of_uneventful (routeReply_cases tracked).2
  · exact dispatch_discarded tlb
  · exact coherent.routeAnswer_discarded
  · exact discarded_of_uneventful (collectUpper_cases tlb).2
  · exact discarded_of_uneventful (collectLeaf_cases tlb).2
  · exact discarded_of_uneventful (tickWalkers_spec tlb).2
  · exact discarded_of_uneventful (sendRead_cases tlb).2
  · exact discarded_of_uneventful (startGuestPage_cases tlb).2
  · exact discarded_of_uneventful (feedCache_cases tlb).2
  · have none : (tlb.onCache (Cache.tick tlb.params tlb.registers)).discarded = [] :=
      Cache.tick_discarded tlb.params tlb.registers tlb.cache
    rw [none]
    exact List.forall_mem_nil _
  · exact discarded_of_uneventful ⟨rfl, rfl⟩

/-- A step drops nothing but prefetches. -/
theorem Coherent.tick_discarded (coherent : Coherent readsBefore tlb) :
    ∀ request ∈ tlb.tick.discarded, request.isPrefetch = true := by
  have each (phase : Tlb → Outcome Tlb) (member : phase ∈ phases) (tlb : Tlb)
      (before : Coherent readsBefore tlb) :
      ∀ request ∈ (phase tlb).discarded, request.isPrefetch = true :=
    before.phase_discarded member
  exact Outcome.forEach_discarded each
    (fun _ member _ before => (before.phase member).coherent) coherent

/-- Where no prefetch is held, every lookup that a step lets go of is answered. -/
theorem Coherent.tick_answers
    (coherent : Coherent readsBefore tlb)
    (demands : ∀ request ∈ tlb.held, request.isPrefetch = false) :
    Accounts tlb tlb.tick.state [] := by
  obtain ⟨answered, responses, held⟩ := coherent.tick.accounts
  have none : tlb.tick.discarded = [] := by
    refine List.eq_nil_iff_forall_not_mem.2 fun request dropped => ?_
    have here : request ∈ tlb.held :=
      held.mem_iff.2 (List.mem_append_left _ (List.mem_append_right _ dropped))
    have demand := demands request here
    rw [coherent.tick_discarded request dropped] at demand
    cases demand
  rw [none] at held
  exact ⟨answered, responses, held⟩

/-! ## A TLB at rest -/

/-- Nothing is on its way. -/
structure AtRest (tlb : Tlb) : Prop where
  /-- No lookup waits, is in the cache or is walked. -/
  held : tlb.held = []
  /-- The cache has no lookup of a guest page either. -/
  lookups : tlb.cache.lookups = []
  guestPages : tlb.guestPages.elements = []
  stageTwo : tlb.stageTwo.state = .idle
  /-- No read is on its way, unless the numbers of the readers wrap around. -/
  reads : tlb.params.leafWalkerSize.toNat + 2 < UInt32.size → tlb.memory.pending = []

private theorem elements_of_not_valid
    {Element : Type} {queue : BoundedQueue Element} (empty : queue.valid = false) :
    queue.elements = [] := by
  unfold BoundedQueue.valid at empty
  rw [Bool.not_eq_false', List.isEmpty_iff] at empty
  exact empty

private theorem heldRequests_of_busyCount
    {walker : LeafWalker} (free : walker.busyCount = 0) : walker.heldRequests = [] := by
  refine List.filterMap_eq_nil_iff.2 fun index member => ?_
  have inside : index < walker.entries.size := List.mem_range.1 member
  apply LeafEntry.held_of_idle
  apply Classical.byContradiction
  intro busy
  have here : walker.entry index = walker.entries[index] := dif_pos inside
  have counted := Array.countP_eq_zero.1 free walker.entries[index] (Array.getElem_mem inside)
  rw [← here] at counted
  apply counted
  rw [Bool.not_eq_true', Bool.eq_false_iff]
  exact fun idle => busy ((LeafEntry.isIdle_iff _).1 idle)

/-- No reader has a read on its way where no count says so. -/
private theorem ReadsTracked.pending_of_reads
    (tracked : ReadsTracked readsBefore tlb) (none : tlb.reads.all (· == 0) = true)
    (numbered : tlb.params.leafWalkerSize.toNat + 2 < UInt32.size) :
    tlb.memory.pending = [] := by
  refine List.eq_nil_iff_forall_not_mem.2 fun read member => ?_
  have known := tracked.known read member
  have inside : read.id < tlb.params.readers := by
    refine Nat.lt_of_not_le fun outside => ?_
    exact Nat.not_lt_of_le (Params.wraps_of_overflow known outside) numbered
  have counted := (tracked.accounts read.id inside).counted
  rw [Memory.length_serials] at counted
  have own : read ∈ tlb.memory.pending.filter (·.id == read.id) :=
    List.mem_filter.2 ⟨member, beq_self_eq_true _⟩
  have stored : read.id < tlb.reads.size := by
    rw [tracked.readers]
    exact inside
  have zero : tlb.reads.getD read.id 0 = 0 := by
    have each := Array.all_eq_true.1 none read.id stored
    rw [Array.getD, dif_pos stored]
    exact beq_iff_eq.1 each
  rw [zero] at counted
  rw [List.eq_nil_of_length_eq_zero counted] at own
  cases own

/-- An idle TLB is at rest. -/
theorem Coherent.atRest (coherent : Coherent readsBefore tlb) (idle : tlb.isIdle = true) :
    AtRest tlb := by
  simp only [isIdle, Bool.and_eq_true, Bool.not_eq_true', beq_iff_eq] at idle
  obtain ⟨⟨⟨⟨⟨⟨⟨⟨reads, inputs⟩, misses⟩, guestPages⟩, -⟩, cache⟩, upper⟩, leaf⟩, stageTwo⟩ := idle
  have lookups : tlb.cache.lookups = [] :=
    List.eq_nil_of_length_eq_zero (beq_iff_eq.1 cache)
  have free : tlb.upper.state = .idle := beq_iff_eq.1 upper
  refine
    { held := ?_
      lookups := lookups
      guestPages := elements_of_not_valid guestPages
      stageTwo := beq_iff_eq.1 stageTwo
      reads := coherent.reads.pending_of_reads reads }
  unfold held
  rw [elements_of_not_valid inputs, elements_of_not_valid misses, lookups, free,
    heldRequests_of_busyCount leaf]
  rfl

end PageWalk.Tlb
