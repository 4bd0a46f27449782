import PageWalk.Proofs.Tlb.Coherence

/-!
# Steps of a coherent state

The phases of a step that start something new: steps of the walkers, reads, second-stage
walks and lookups in the cache. With them a whole step, and every other command, keeps
the state coherent.
-/

namespace PageWalk.Tlb

variable {readsBefore : Nat} {tlb : Tlb}

/-! ## Walkers -/

theorem Coherent.tickWalkers (coherent : Coherent readsBefore tlb) :
    Proceeds readsBefore tlb tlb.tickWalkers := by
  obtain ⟨ticket, tracked⟩ := coherent.pages
  obtain ⟨state, uneventful⟩ := tickWalkers_spec tlb
  have upper := UpperWalker.tick_alike tlb.params tlb.registers tlb.protection tlb.upper
  have leaf := LeafWalker.tick_alike tlb.params tlb.protection tlb.leaf
  obtain ⟨walked, address, bounded⟩ :=
    StageTwoWalker.tick_spec tlb.params tlb.registers tlb.protection tracked.stageTwo
  refine .of_unmoved uneventful ?_ coherent.queues ?_ ⟨ticket, ?_⟩ ?_
  all_goals rw [state]
  · exact { Unmoved.refl tlb with upper := upper.request, leaf := leaf.heldRequests }
  · exact coherent.reads.of_same
      { SameReads.refl tlb with
        upper := upper.address
        stageTwo := address
        leaf := leaf.awaitsBlock }
  · exact tracked.of_same
      { SamePages.refl tlb with
        entries := leaf.size
        page := upper.page
        walked := walked }
      (tracked.upper.tick tlb.params tlb.registers tlb.protection) bounded
      (tracked.leaf.tick tlb.params tlb.protection)
  · intro wraps
    have confined := coherent.confined wraps
    exact confined.congr leaf.heldRequests (upper.dispatch.trans confined.upper) confined.cache

/-! ## Reads -/

/-- A busy entry of the leaf walker shares its number with no other reader. -/
theorem Coherent.number_of_busy
    (coherent : Coherent readsBefore tlb) {id : Nat}
    (busy : (tlb.leaf.entry id).state ≠ .idle) :
    id < tlb.params.leafWalkerSize.toNat ∧ id ≠ tlb.params.upperId ∧
      id ≠ tlb.params.stageTwoId := by
  obtain ⟨ticket, tracked⟩ := coherent.pages
  have inside := LeafWalker.lt_size_of_busy busy
  have bound := inside
  rw [tracked.entries] at bound
  refine ⟨bound, Nat.ne_of_lt bound, ?_⟩
  rcases tlb.params.ids_cases with ⟨number, _⟩ | ⟨number, _, _⟩
  · omega
  · have member : (tlb.leaf.entry id).request ∈ tlb.leaf.heldRequests :=
      List.mem_filterMap.2 ⟨id, List.mem_range.2 inside, LeafEntry.held_of_busy busy⟩
    rw [(coherent.confined number).leaf] at member
    cases member

/-- The reader of a read that was sent waits for it now. -/
private theorem ReadFired.reads
    {request : MemoryRequest} {fired : Tlb} (coherent : Coherent readsBefore tlb)
    (told : ReadFired { tlb with memory := tlb.memory.accept request } request fired)
    (counters : TlbCounters) :
    ReadsTracked readsBefore
      { fired with reads := fired.reads.modify request.id (· + 1), counters := counters } := by
  cases told with
  | upper wanted =>
      have wanted : tlb.upper.memoryRequest? tlb.params = some request := wanted
      obtain ⟨_, _, id, _⟩ := UpperWalker.fireMemory_spec tlb.params wanted
      obtain ⟨before, now⟩ := UpperWalker.fireMemory_waits tlb.params wanted
      refine coherent.reads.send ?_ rfl rfl rfl rfl ?_ ?_ fun other different => ?_
      · rw [id]
        exact Nat.le_succ _
      · rw [id, awaitsBlock_upper, before]
        rfl
      · rw [id]
        exact (awaitsBlock_upper _).trans (by rw [now]; rfl)
      · rw [id] at different
        exact awaitsBlock_congr rfl (absurd · different) (fun _ => rfl) fun _ _ => rfl
  | leaf wanted =>
      have wanted : tlb.leaf.memoryRequest? = some request := wanted
      have state := (LeafWalker.memoryRequest_spec wanted).2
      obtain ⟨inside, first, second⟩ :=
        coherent.number_of_busy (by rw [state]; exact LeafState.noConfusion)
      have fired := LeafWalker.fireMemory_awaitsBlock tlb.params wanted
      refine coherent.reads.send (by omega) rfl rfl rfl rfl ?_ ?_ fun other different => ?_
      · rw [awaitsBlock_leaf first second]
        exact LeafWalker.awaitsBlock_of_memoryRequest wanted
      · have now := fired request.id
        rw [beq_self_eq_true, Bool.or_true] at now
        rw [← now]
        exact awaitsBlock_leaf first second
      · refine awaitsBlock_congr rfl (fun _ => rfl) (fun _ => rfl) fun _ _ => ?_
        exact (fired other).trans (by rw [beq_eq_false_iff_ne.2 different, Bool.or_false])
  | stageTwo wanted =>
      have wanted : tlb.stageTwo.memoryRequest? tlb.params = some request := wanted
      obtain ⟨_, _, id, _⟩ := StageTwoWalker.fireMemory_spec tlb.params wanted
      obtain ⟨before, now⟩ := StageTwoWalker.fireMemory_waits tlb.params wanted
      refine coherent.reads.send ?_ rfl rfl rfl rfl ?_ ?_ fun other different => ?_
      · rw [id]
        rcases tlb.params.ids_cases with ⟨number, _⟩ | ⟨number, _, _⟩ <;> omega
      · rw [id, awaitsBlock_stageTwo, before]
        rfl
      · rw [id]
        exact (awaitsBlock_stageTwo _).trans (by rw [now]; rfl)
      · rw [id] at different
        exact awaitsBlock_congr rfl (fun _ => rfl) (absurd · different) fun _ _ => rfl

private theorem ReadFired.pages
    {request : MemoryRequest} {fired : Tlb} {ticket : Option (Nat × Word)}
    (tracked : PagesTracked tlb ticket) (told : ReadFired tlb request fired) :
    PagesTracked fired ticket ∧ Unmoved tlb fired := by
  cases told with
  | upper wanted =>
      obtain ⟨kept, page, _, bounded⟩ :=
        UpperWalker.fireMemory_keeps tlb.params wanted tracked.upper
      refine ⟨?_, { Unmoved.refl tlb with upper := kept }⟩
      exact tracked.of_same { SamePages.refl tlb with page := page } bounded tracked.stageTwo
        tracked.leaf
  | leaf wanted =>
      have size := (LeafWalker.fireMemory_spec tlb.params wanted).1.size
      have kept := LeafWalker.fireMemory_heldRequests tlb.params wanted
      refine ⟨?_, { Unmoved.refl tlb with leaf := kept }⟩
      exact tracked.of_same { SamePages.refl tlb with entries := size } tracked.upper
        tracked.stageTwo (tracked.leaf.fireMemory tlb.params wanted)
  | stageTwo wanted =>
      obtain ⟨walked, bounded⟩ :=
        StageTwoWalker.fireMemory_keeps tlb.params wanted tracked.stageTwo
      refine ⟨?_, { Unmoved.refl tlb with }⟩
      exact tracked.of_same { SamePages.refl tlb with walked := walked } tracked.upper bounded
        tracked.leaf

private theorem ReadFired.confined
    {request : MemoryRequest} {fired : Tlb} (told : ReadFired tlb request fired)
    (upper : tlb.upper.Bounded) (confined : Confined tlb) : Confined fired := by
  cases told with
  | upper wanted =>
      obtain ⟨_, _, dispatch, _⟩ := UpperWalker.fireMemory_keeps tlb.params wanted upper
      exact confined.congr rfl dispatch confined.cache
  | leaf wanted =>
      exact confined.congr (LeafWalker.fireMemory_heldRequests tlb.params wanted)
        confined.upper confined.cache
  | stageTwo wanted =>
      exact confined.congr rfl confined.upper confined.cache

theorem Coherent.sendRead (coherent : Coherent readsBefore tlb) :
    Proceeds readsBefore tlb tlb.sendRead := by
  obtain ⟨ticket, tracked⟩ := coherent.pages
  obtain ⟨sent, uneventful⟩ := sendRead_cases tlb
  generalize tlb.sendRead = outcome at sent uneventful ⊢
  generalize reached : outcome.state = after at sent
  cases sent with
  | nothing =>
      exact .of_same uneventful reached coherent
  | sent request counters told =>
      have accepted : PagesTracked { tlb with memory := tlb.memory.accept request } ticket :=
        { tracked with }
      obtain ⟨pages, unmoved⟩ := ReadFired.pages accepted told
      refine .of_unmoved uneventful ?_ coherent.queues ?_ ⟨ticket, ?_⟩ ?_
      all_goals rw [reached]
      · exact { unmoved with }
      · exact ReadFired.reads coherent told counters
      · exact { pages with }
      · intro wraps
        have numbers : tlb.params.stageTwoId = 0 := by
          rw [← wraps]
          exact congrArg Params.stageTwoId unmoved.params.symm
        have confined := told.confined tracked.upper { coherent.confined numbers with }
        exact { confined with }

/-! ## Second-stage walks -/

theorem Coherent.startGuestPage (coherent : Coherent readsBefore tlb) :
    Proceeds readsBefore tlb tlb.startGuestPage := by
  obtain ⟨ticket, tracked⟩ := coherent.pages
  obtain ⟨started, uneventful⟩ := startGuestPage_cases tlb
  generalize tlb.startGuestPage = outcome at started uneventful ⊢
  generalize reached : outcome.state = after at started
  cases started with
  | nothing =>
      exact .of_same uneventful reached coherent
  | started request oldest ready =>
      obtain ⟨walked, address, bounded⟩ :=
        StageTwoWalker.accept_spec tlb.params tlb.registers request ready
      obtain ⟨noTicket, noAddress, _⟩ :=
        StageTwoWalker.observations_of_idle (StageTwoWalker.state_of_ready ready)
      refine .of_uneventful uneventful ⟨?_, ⟨ticket, ?_⟩, ?_, ?_⟩ ?_ ?_ ?_
      all_goals rw [reached]
      · exact coherent.reads.of_same
          { SameReads.refl tlb with
            stageTwo := address.trans noAddress.symm }
      · refine { tracked with stageTwo := bounded, pages := List.Perm.trans ?_ tracked.pages }
        simp only [pagesInFlight, queuedPages, walked, noTicket, oldest, Option.toList_some,
          Option.toList_none, List.map_cons, List.append_nil, List.append_assoc]
        exact (List.perm_append_singleton _ _).append_left _
      · exact { coherent.queues with }
      · exact fun wraps => { coherent.confined wraps with }
      · exact { Framed.refl tlb with }
      · exact List.Perm.refl _

/-! ## Lookups in the cache -/

theorem stocked_fed
    {facts : LineFacts} (stocked : tlb.cache.Stocked facts) (lookup : Lookup) :
    (tlb.fed lookup).cache.Stocked facts :=
  ⟨{ stocked.shelved with }, { stocked.piped with }⟩

private theorem probedPages_fed_lookup
    (free : tlb.cache.waiting = none) {lookup : Lookup} (outside : lookup.probe = false) :
    probedPages (tlb.fed lookup).cache.lookups = probedPages tlb.cache.lookups := by
  rw [lookups_fed free, probedPages_append, probedPages_cons_of_lookup outside]
  exact List.append_nil _

/-- The guest page of a probe comes first among those in flight. -/
private theorem pagesInFlight_fed_probe
    (free : tlb.cache.waiting = none) (request : StageTwoRequest) :
    (tlb.fed (probeOf request)).pagesInFlight.Perm
      ((request.id, request.gvpn) :: tlb.pagesInFlight) := by
  unfold pagesInFlight
  rw [lookups_fed free, probedPages_append, probedPages_cons_of_probe rfl]
  simp only [List.append_assoc]
  exact List.perm_middle

private theorem held_fed_probe (free : tlb.cache.waiting = none) (request : StageTwoRequest) :
    (tlb.fed (probeOf request)).held = tlb.held := by
  unfold held
  rw [unprobed_fed_probe free rfl]
  rfl

/-- The parts of the state that a lookup does not touch when it moves from a queue into
the cache. -/
private theorem Coherent.feedLookup
    (coherent : Coherent readsBefore tlb) {outcome : Outcome Tlb} {lookup : Lookup}
    {inputs : BoundedQueue Request} {misses : BoundedQueue Lookup}
    (uneventful : outcome.Uneventful) (free : tlb.cache.waiting = none)
    (outside : lookup.probe = false)
    (state : outcome.state =
      { tlb.fed lookup with
        inputs := inputs
        misses := misses
        lookupsInCache := tlb.lookupsInCache + 1 })
    (queues : QueuesTracked outcome.state)
    (moved :
      (tlb.inputs.elements ++ tlb.misses.elements.map (·.request)).Perm
        (lookup.request :: (inputs.elements ++ misses.elements.map (·.request)))) :
    Proceeds readsBefore tlb outcome := by
  obtain ⟨ticket, tracked⟩ := coherent.pages
  have lookups := unprobed_fed_lookup free outside
  refine .of_uneventful uneventful ⟨?_, ⟨ticket, ?_⟩, queues, ?_⟩ ?_ ?_ ?_
  all_goals rw [state]
  · exact { coherent.reads with }
  · refine { tracked with pages := ?_ }
    have pages := tracked.pages
    unfold pagesInFlight at pages ⊢
    rw [← probedPages_fed_lookup free outside] at pages
    exact pages
  · intro wraps
    have confined := coherent.confined wraps
    have stocked := stocked_fed confined.cache lookup
    exact ⟨confined.leaf, confined.upper, stocked⟩
  · exact { Framed.refl tlb with }
  · rfl
  · apply List.perm_iff_count.2
    intro tested
    have counted := moved.count_eq tested
    simp only [held, lookups, List.map_append, List.map_cons, List.map_nil, List.count_append,
      List.count_cons, List.count_nil] at counted ⊢
    dsimp only [fed]
    omega

/-- The guest page that the upper walker waits for next moves into the cache. -/
private theorem Coherent.probeUpper
    (coherent : Coherent readsBefore tlb) {request : StageTwoRequest}
    (wanted : tlb.upper.stageTwoRequest? tlb.params = some request)
    (free : tlb.cache.waiting = none) :
    Coherent readsBefore
        { tlb.fed (probeOf request) with
          upper := (UpperWalker.fireStageTwo tlb.params tlb.upper).state } ∧
      tlb.held.Perm
        { tlb.fed (probeOf request) with
          upper := (UpperWalker.fireStageTwo tlb.params tlb.upper).state }.held := by
  obtain ⟨ticket, tracked⟩ := coherent.pages
  obtain ⟨id, _⟩ := UpperWalker.fireStageTwo_spec tlb.params wanted
  obtain ⟨noPage, kept, page, address, dispatch, bounded⟩ :=
    UpperWalker.fireStageTwo_waits tlb.params wanted tracked.upper
  have pages := tracked.pages
  unfold upperPage? at pages
  rw [noPage] at pages
  have queues := coherent.queues.feedProbe free request
  refine ⟨⟨?_, ⟨ticket, ?_⟩, { queues with }, fun wraps => ?_⟩, ?_⟩
  · exact coherent.reads.of_same { SameReads.refl tlb with upper := address }
  · refine { tracked with upper := bounded, pages := ?_ }
    refine (pagesInFlight_fed_probe free request).trans ?_
    unfold upperPage?
    dsimp only
    rw [page, id]
    exact pages.cons _
  · have confined := coherent.confined wraps
    exact ⟨confined.leaf, dispatch, stocked_fed confined.cache _⟩
  · rw [← held_fed_probe free request]
    unfold held
    dsimp only
    rw [kept]
    exact List.Perm.refl _

/-- The guest page that the leaf walker waits for next moves into the cache. -/
private theorem Coherent.probeLeaf
    (coherent : Coherent readsBefore tlb) {request : StageTwoRequest}
    (wants : tlb.leaf.wantsStageTwo = true)
    (wanted : tlb.leaf.stageTwoRequest? = some request) (free : tlb.cache.waiting = none) :
    Coherent readsBefore
        { tlb.fed (probeOf request) with
          leaf := (LeafWalker.fireStageTwo tlb.params tlb.leaf).state } ∧
      tlb.held.Perm
        { tlb.fed (probeOf request) with
          leaf := (LeafWalker.fireStageTwo tlb.params tlb.leaf).state }.held := by
  obtain ⟨ticket, tracked⟩ := coherent.pages
  have alike := LeafWalker.fireStageTwo_alike tlb.params wants wanted
  have none := tracked.leaf.ticket_of_wantsStageTwo wants
  have pages := tracked.pages
  rw [none] at pages
  have queues := coherent.queues.feedProbe free request
  refine ⟨⟨?_, ⟨some (request.id, request.gvpn), ?_⟩, { queues with }, fun wraps => ?_⟩, ?_⟩
  · exact coherent.reads.of_same { SameReads.refl tlb with leaf := alike.awaitsBlock }
  · refine
      { upper := tracked.upper
        stageTwo := tracked.stageTwo
        leaf := tracked.leaf.fireStageTwo tlb.params wants wanted
        entries := alike.size.trans tracked.entries
        pages := (pagesInFlight_fed_probe free request).trans ?_ }
    rw [Option.toList_none, List.append_nil] at pages
    refine (pages.cons _).trans ?_
    exact (List.perm_append_singleton _ _).symm
  · have confined := coherent.confined wraps
    exact ⟨alike.heldRequests.trans confined.leaf, confined.upper, stocked_fed confined.cache _⟩
  · rw [← held_fed_probe free request]
    unfold held
    dsimp only
    rw [alike.heldRequests]
    exact List.Perm.refl _

theorem Coherent.feedCache (coherent : Coherent readsBefore tlb) :
    Proceeds readsBefore tlb tlb.feedCache := by
  obtain ⟨ticket, tracked⟩ := coherent.pages
  obtain ⟨fed, uneventful⟩ := feedCache_cases tlb
  have queues := fed.queues coherent.queues
  generalize tlb.feedCache = outcome at fed uneventful queues ⊢
  generalize reached : outcome.state = after at fed
  cases fed with
  | nothing counters =>
      refine .of_unmoved uneventful ?_ coherent.queues ?_ ⟨ticket, ?_⟩ ?_
      all_goals rw [reached]
      · exact { Unmoved.refl tlb with }
      · exact { coherent.reads with }
      · exact { tracked with }
      · intro wraps
        have confined := coherent.confined wraps
        exact ⟨confined.leaf, confined.upper,
          ⟨{ confined.cache.shelved with }, { confined.cache.piped with }⟩⟩
  | upper request wanted free =>
      obtain ⟨next, held⟩ := coherent.probeUpper wanted free
      rw [← reached] at next held
      exact .of_uneventful uneventful next (by rw [reached]; exact { Framed.refl tlb with })
        (by rw [reached]; rfl) held
  | leaf request wants wanted free =>
      obtain ⟨next, held⟩ := coherent.probeLeaf wants wanted free
      rw [← reached] at next held
      exact .of_uneventful uneventful next (by rw [reached]; exact { Framed.refl tlb with })
        (by rw [reached]; rfl) held
  | miss lookup oldest free =>
      have outside := coherent.queues.parked lookup (by rw [oldest]; exact List.mem_cons_self)
      refine coherent.feedLookup uneventful free outside reached queues ?_
      rw [oldest]
      exact List.perm_middle
  | input request oldest free =>
      refine coherent.feedLookup uneventful free rfl reached queues ?_
      rw [oldest]
      exact List.Perm.refl _

/-! ## The step -/

/-- A step of the cache keeps the state coherent. It stops only on a lookup that hits
twice. -/
theorem Coherent.tickCache (coherent : Coherent readsBefore tlb) :
    Proceeds readsBefore tlb (tlb.onCache (Cache.tick tlb.params tlb.registers)) := by
  obtain ⟨ticket, tracked⟩ := coherent.pages
  have lookups := Cache.tick_lookups tlb.params tlb.registers tlb.cache
  have unmoved : Unmoved tlb (tlb.onCache (Cache.tick tlb.params tlb.registers)).state :=
    { Unmoved.refl tlb with lookups := lookups }
  refine ⟨⟨?_, ⟨ticket, ?_⟩, unmoved.queues coherent.queues, ?_⟩, unmoved.framed, ?_, ?_⟩
  · exact { coherent.reads with }
  · exact tracked.of_same { SamePages.refl tlb with lookups := lookups }
      tracked.upper tracked.stageTwo tracked.leaf
  · intro wraps
    have confined := coherent.confined wraps
    exact ⟨confined.leaf, confined.upper, confined.cache.tick tlb.params tlb.registers⟩
  · have discards : (tlb.onCache (Cache.tick tlb.params tlb.registers)).discarded = [] :=
      Cache.tick_discarded tlb.params tlb.registers tlb.cache
    rw [discards]
    exact accounts_of_held rfl unmoved.held
  · intro fault stopped
    obtain ⟨request, same⟩ := Cache.tick_fault tlb.params tlb.registers stopped
    rw [same]
    exact .doubleHit request

theorem Coherent.endStep (coherent : Coherent readsBefore tlb) :
    Proceeds readsBefore tlb tlb.endStep := by
  obtain ⟨ticket, tracked⟩ := coherent.pages
  refine .of_unmoved ⟨rfl, rfl⟩ ?_ coherent.queues ?_ ⟨ticket, ?_⟩ ?_
  · exact { Unmoved.refl tlb with }
  · exact { coherent.reads with }
  · exact { tracked with }
  · exact fun wraps => { coherent.confined wraps with }

theorem Coherent.phase
    {phase : Tlb → Outcome Tlb} (member : phase ∈ phases) {tlb : Tlb}
    (coherent : Coherent readsBefore tlb) : Proceeds readsBefore tlb (phase tlb) := by
  simp only [phases, List.mem_cons, List.not_mem_nil, or_false] at member
  rcases member with rfl | rfl | rfl | rfl | rfl | rfl | rfl | rfl | rfl | rfl | rfl | rfl
  · exact coherent.receiveBlock
  · exact coherent.routeReply
  · exact coherent.dispatch
  · exact coherent.routeAnswer
  · exact coherent.collectUpper
  · exact coherent.collectLeaf
  · exact coherent.tickWalkers
  · exact coherent.sendRead
  · exact coherent.startGuestPage
  · exact coherent.feedCache
  · exact coherent.tickCache
  · exact coherent.endStep

theorem proceeds_of_phases
    {others : List (Tlb → Outcome Tlb)}
    (each : ∀ phase ∈ others, ∀ tlb, Coherent readsBefore tlb →
      Proceeds readsBefore tlb (phase tlb))
    {tlb : Tlb} (coherent : Coherent readsBefore tlb) :
    Proceeds readsBefore tlb (Outcome.forEach (fun phase tlb => phase tlb) others tlb) := by
  induction others generalizing tlb with
  | nil =>
      exact .of_uneventful ⟨rfl, rfl⟩ coherent ⟨rfl, rfl, rfl, rfl⟩ rfl (List.Perm.refl _)
  | cons phase others inductionHypothesis =>
      have first := each phase List.mem_cons_self tlb coherent
      refine first.andThen ?_
      exact inductionHypothesis
        (fun other member => each other (List.mem_cons_of_mem phase member)) first.coherent

/-- A step keeps the state coherent, accounts for every lookup, and stops only with the
faults that are excused. -/
theorem Coherent.tick (coherent : Coherent readsBefore tlb) :
    Proceeds readsBefore tlb tlb.tick :=
  proceeds_of_phases (fun _ member _ coherent => coherent.phase member) coherent

/-! ## Other commands -/

/-- A lookup that is accepted finds room. -/
theorem Coherent.send
    (coherent : Coherent readsBefore tlb) {request : Request} {outcome : Outcome Tlb}
    (sent : tlb.send? request = some outcome) :
    Coherent readsBefore outcome.state ∧ outcome.Uneventful ∧
      outcome.state.responses = tlb.responses ∧
      outcome.state.held.Perm (request :: tlb.held) := by
  unfold send? at sent
  split at sent
  · rename_i ready
    obtain ⟨inputs, queued, same⟩ := Option.map_eq_some_iff.1 sent
    obtain ⟨elements, _⟩ := elements_of_send queued
    subst same
    obtain ⟨ticket, tracked⟩ := coherent.pages
    refine ⟨⟨?_, ⟨ticket, { tracked with }⟩, coherent.queues.send ready queued _, ?_⟩,
      ⟨rfl, rfl⟩, rfl, ?_⟩
    · exact { coherent.reads with }
    · exact fun wraps => { coherent.confined wraps with }
    · unfold held
      dsimp only
      rw [elements]
      simp only [List.append_assoc, List.singleton_append]
      exact List.perm_middle
  · cases sent

/-- A flush, whatever it leaves in the storages of the cache, makes a coherent state that
holds nothing. -/
theorem Coherent.flush
    (coherent : Coherent readsBefore tlb) {cache : Cache}
    (stocked : tlb.params.stageTwoId = 0 → cache.Stocked guestPointers) :
    Coherent tlb.memory.requests (Tlb.flush { tlb with cache := cache }) ∧
      (Tlb.flush { tlb with cache := cache }).held = [] := by
  obtain ⟨ticket, tracked⟩ := coherent.pages
  let flushed := Tlb.flush { tlb with cache := cache }
  have idle (index : Nat) : flushed.leaf.entry index = {} :=
    LeafWalker.entry_flush tlb.leaf index
  have upper : flushed.upper.state = .idle := rfl
  have stageTwo : flushed.stageTwo.state = .idle := rfl
  obtain ⟨noRequest, noPage, noAddress, noDispatch, bounded⟩ := UpperWalker.moved_of_idle upper
  obtain ⟨noTicket, noBlock, stageTwoBounded⟩ := StageTwoWalker.observations_of_idle stageTwo
  have quiet : ∀ id, flushed.awaitsBlock id = false :=
    awaitsBlock_of_quiet noAddress noBlock (LeafWalker.awaitsBlock_of_idle idle)
  refine ⟨⟨?_, ⟨none, ?_⟩, coherent.queues.flush tlb.registers cache, ?_⟩, ?_⟩
  · have tracked : ReadsTracked flushed.memory.requests flushed :=
      coherent.reads.flush rfl rfl rfl rfl rfl quiet
    exact tracked
  · refine
      { upper := bounded
        stageTwo := stageTwoBounded
        leaf := LeafWalker.orderly_of_idle idle rfl
        entries := (Array.size_map ..).trans tracked.entries
        pages := ?_ }
    unfold pagesInFlight upperPage?
    rw [noTicket, noPage]
    exact List.Perm.refl _
  · intro wraps
    exact ⟨LeafWalker.heldRequests_of_idle idle, noDispatch,
      (stocked wraps).flush⟩
  · unfold held
    rw [noRequest, LeafWalker.heldRequests_of_idle idle]
    rfl

/-- A fence leaves a coherent state that holds nothing. -/
theorem Coherent.fence (coherent : Coherent readsBefore tlb) (fence : Fence) :
    Coherent tlb.memory.requests (Tlb.fence fence tlb).state ∧
      (Tlb.fence fence tlb).state.held = [] :=
  coherent.flush fun wraps =>
    (coherent.confined wraps).cache.fence tlb.params tlb.registers fence

theorem Coherent.write (coherent : Coherent readsBefore tlb) (address data : Word) :
    Coherent readsBefore (Tlb.write address data tlb).state ∧
      (Tlb.write address data tlb).discarded = [] ∧
      (Tlb.write address data tlb).state.responses = tlb.responses ∧
      (Tlb.write address data tlb).state.held = tlb.held := by
  unfold Tlb.write Memory.writeWord
  split
  · rename_i memory written
    split at written
    · cases written
    · cases written
      obtain ⟨ticket, tracked⟩ := coherent.pages
      refine ⟨⟨?_, ⟨ticket, { tracked with }⟩, { coherent.queues with }, fun wraps => ?_⟩,
        rfl, rfl, rfl⟩
      · exact { coherent.reads with }
      · exact { coherent.confined wraps with }
  · exact ⟨coherent, rfl, rfl, rfl⟩

/-- A corrupted line keeps the state coherent. -/
theorem Coherent.corrupt
    (coherent : Coherent readsBefore tlb) (level : Nat) (set way : UInt32) :
    Coherent readsBefore (Tlb.corrupt level set way tlb).state ∧
      (Tlb.corrupt level set way tlb).discarded = [] ∧
      (Tlb.corrupt level set way tlb).state.responses = tlb.responses ∧
      tlb.held.Perm (Tlb.corrupt level set way tlb).state.held := by
  obtain ⟨ticket, tracked⟩ := coherent.pages
  have same := Cache.corrupt_stages tlb.params level set way tlb.cache
  have discards := Cache.corrupt_discarded tlb.params level set way tlb.cache
  have unmoved : Unmoved tlb (Tlb.corrupt level set way tlb).state :=
    { Unmoved.refl tlb with lookups := same.lookups }
  refine ⟨⟨?_, ⟨ticket, ?_⟩, unmoved.queues coherent.queues, fun wraps => ?_⟩, discards, rfl,
    unmoved.held⟩
  · exact { coherent.reads with }
  · exact tracked.of_same { SamePages.refl tlb with lookups := same.lookups }
      tracked.upper tracked.stageTwo tracked.leaf
  · have confined := coherent.confined wraps
    refine ⟨confined.leaf, confined.upper, ?_⟩
    refine confined.cache.corrupt tlb.params level set way ?_ fun _ _ _ _ => trivial
    intro line other tag mode
    have same : other.tag.mode = line.tag.mode := by rw [tag]
    exact same.trans mode

end PageWalk.Tlb
