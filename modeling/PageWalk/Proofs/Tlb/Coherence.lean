import PageWalk.Proofs.Cache.Stock
import PageWalk.Proofs.Tlb.Queues

/-!
# Coherence

The state between two commands is coherent: the reads and the guest pages on their
way are those that walkers wait for, and the queues have room for what may come.
Every phase of a step keeps the state coherent, accounts for every lookup, and stops
only where the cache hits twice or the memory answers a reader that the counters
cannot number.
-/

namespace PageWalk.Tlb

/-! ## The invariant -/

/-- Middle pointers belong to the second stage alone. -/
def guestPointers : LineFacts where
  root := fun _ => True
  middle := fun line => line.tag.mode = .stageTwo
  sector := fun _ => True
  superpage := fun _ => True

/-- The leaf walker is out of use. This is so when the reader numbers wrap around and
the second-stage walker gets the number of the first leaf entry: then no read of the
upper walker is answered, and no leaf walk is ever found. -/
structure Confined (tlb : Tlb) : Prop where
  leaf : tlb.leaf.heldRequests = []
  upper : tlb.upper.dispatch? = none
  cache : tlb.cache.Stocked guestPointers

/-- The parts of the TLB agree on what is on its way. -/
structure Coherent (readsBefore : Nat) (tlb : Tlb) : Prop where
  reads : ReadsTracked readsBefore tlb
  pages : ∃ ticket, PagesTracked tlb ticket
  queues : QueuesTracked tlb
  confined : tlb.params.stageTwoId = 0 → Confined tlb

/-! ## What a phase does to the whole -/

/-- The configuration and the words of the memory stay. -/
structure Framed (tlb after : Tlb) : Prop where
  params : after.params = tlb.params
  registers : after.registers = tlb.registers
  protection : after.protection = tlb.protection
  words : after.memory.words = tlb.memory.words

/-- Every lookup that was held is answered, dropped, or still held. -/
def Accounts (tlb after : Tlb) (dropped : List Request) : Prop :=
  ∃ answered : List Response,
    after.responses = tlb.responses ++ answered ∧
      tlb.held.Perm (answered.map (·.request) ++ dropped ++ after.held)

/-- The faults that a step can meet. -/
inductive Excused (params : Params) : Fault → Prop
  | doubleHit (request : Request) :
      Excused params (.misuse params.cacheName (.doubleHit request))
  | overflow (id : Nat) (wraps : UInt32.size ≤ params.leafWalkerSize.toNat + 2)
      (outside : params.readers ≤ id) :
      Excused params (.misuse params.name (.memoryIdOverflow id))

/-- What a phase, and a whole step, does to a coherent state. -/
structure Proceeds (readsBefore : Nat) (tlb : Tlb) (outcome : Outcome Tlb) : Prop where
  coherent : Coherent readsBefore outcome.state
  framed : Framed tlb outcome.state
  accounts : Accounts tlb outcome.state outcome.discarded
  excused : ∀ fault, outcome.fault = some fault → Excused tlb.params fault

theorem Framed.refl (tlb : Tlb) : Framed tlb tlb :=
  ⟨rfl, rfl, rfl, rfl⟩

theorem Framed.trans
    {tlb middle after : Tlb} (first : Framed tlb middle) (second : Framed middle after) :
    Framed tlb after where
  params := second.params.trans first.params
  registers := second.registers.trans first.registers
  protection := second.protection.trans first.protection
  words := second.words.trans first.words

theorem Accounts.trans
    {tlb middle after : Tlb} {dropped others : List Request}
    (first : Accounts tlb middle dropped) (second : Accounts middle after others) :
    Accounts tlb after (dropped ++ others) := by
  obtain ⟨answered, responses, held⟩ := first
  obtain ⟨more, moreResponses, moreHeld⟩ := second
  refine ⟨answered ++ more, by rw [moreResponses, responses, List.append_assoc], ?_⟩
  apply List.perm_iff_count.2
  intro request
  have left := held.count_eq request
  have right := moreHeld.count_eq request
  simp only [List.map_append, List.count_append] at left right ⊢
  omega

/-- Nothing was answered or dropped. -/
theorem accounts_of_held
    {tlb after : Tlb} (responses : after.responses = tlb.responses)
    (held : tlb.held.Perm after.held) : Accounts tlb after [] :=
  ⟨[], by rw [responses, List.append_nil], held⟩

section Operations

variable {readsBefore : Nat} {tlb : Tlb} {outcome : Outcome Tlb}

theorem Proceeds.of_running
    (running : outcome.fault = none) (coherent : Coherent readsBefore outcome.state)
    (framed : Framed tlb outcome.state)
    (accounts : Accounts tlb outcome.state outcome.discarded) :
    Proceeds readsBefore tlb outcome where
  coherent := coherent
  framed := framed
  accounts := accounts
  excused := by
    intro fault stopped
    rw [running] at stopped
    cases stopped

theorem Proceeds.of_uneventful
    (uneventful : outcome.Uneventful) (coherent : Coherent readsBefore outcome.state)
    (framed : Framed tlb outcome.state) (responses : outcome.state.responses = tlb.responses)
    (held : tlb.held.Perm outcome.state.held) : Proceeds readsBefore tlb outcome :=
  .of_running uneventful.running coherent framed
    (by rw [uneventful.keeps]; exact accounts_of_held responses held)

theorem Proceeds.andThen
    {next : Tlb → Outcome Tlb} (first : Proceeds readsBefore tlb outcome)
    (second : Proceeds readsBefore outcome.state (next outcome.state)) :
    Proceeds readsBefore tlb (outcome.andThen next) := by
  cases running : outcome.fault with
  | some fault =>
      rw [Outcome.andThen_of_stopped next running]
      exact first
  | none =>
      refine ⟨?_, ?_, ?_, ?_⟩
      · rw [Outcome.andThen_state_of_running next running]
        exact second.coherent
      · rw [Outcome.andThen_state_of_running next running]
        exact first.framed.trans second.framed
      · rw [Outcome.andThen_state_of_running next running,
          Outcome.andThen_discarded_of_running next running]
        exact first.accounts.trans second.accounts
      · rw [Outcome.andThen_fault_of_running next running]
        intro fault stopped
        rw [← first.framed.params]
        exact second.excused fault stopped

end Operations

/-! ## States that agree in what is tracked -/

/-- No lookup moved from one holder to another, and nothing outside the walkers, the
storages of the cache, and the reads on their way changed. -/
structure Unmoved (tlb after : Tlb) : Prop where
  params : after.params = tlb.params
  registers : after.registers = tlb.registers
  protection : after.protection = tlb.protection
  words : after.memory.words = tlb.memory.words
  inputs : after.inputs = tlb.inputs
  misses : after.misses = tlb.misses
  guestPages : after.guestPages = tlb.guestPages
  responses : after.responses = tlb.responses
  count : after.lookupsInCache = tlb.lookupsInCache
  lookups : after.cache.lookups = tlb.cache.lookups
  upper : after.upper.state.request = tlb.upper.state.request
  leaf : after.leaf.heldRequests = tlb.leaf.heldRequests

/-- The same guest pages are being translated for the same walkers. -/
structure SamePages (tlb after : Tlb) : Prop where
  params : after.params = tlb.params
  entries : after.leaf.entries.size = tlb.leaf.entries.size
  page : after.upper.awaitedPage? = tlb.upper.awaitedPage?
  guestPages : after.guestPages = tlb.guestPages
  lookups : after.cache.lookups = tlb.cache.lookups
  walked : after.stageTwo.state.ticket? = tlb.stageTwo.state.ticket?

section Congruence

variable {tlb after : Tlb}

theorem SamePages.refl (tlb : Tlb) : SamePages tlb tlb :=
  ⟨rfl, rfl, rfl, rfl, rfl, rfl⟩

theorem Unmoved.refl (tlb : Tlb) : Unmoved tlb tlb :=
  ⟨rfl, rfl, rfl, rfl, rfl, rfl, rfl, rfl, rfl, rfl, rfl, rfl⟩

theorem Unmoved.framed (unmoved : Unmoved tlb after) : Framed tlb after where
  params := unmoved.params
  registers := unmoved.registers
  protection := unmoved.protection
  words := unmoved.words

theorem Unmoved.held (unmoved : Unmoved tlb after) : tlb.held.Perm after.held := by
  unfold Tlb.held
  rw [unmoved.inputs, unmoved.misses, unmoved.lookups, unmoved.upper, unmoved.leaf]

theorem Unmoved.queues (unmoved : Unmoved tlb after) (queues : QueuesTracked tlb) :
    QueuesTracked after :=
  queues.of_same
    { params := unmoved.params
      protection := unmoved.protection
      inputs := unmoved.inputs
      misses := unmoved.misses
      pageCapacity := congrArg BoundedQueue.capacity unmoved.guestPages
      count := unmoved.count
      lookups := unmoved.lookups }

/-- The guest pages are tracked as before where the walkers wait for the same ones. -/
theorem PagesTracked.of_same
    {ticket : Option (Nat × Word)} (tracked : PagesTracked tlb ticket)
    (same : SamePages tlb after) (upper : after.upper.Bounded)
    (stageTwo : after.stageTwo.Bounded) (leaf : after.leaf.Orderly ticket) :
    PagesTracked after ticket where
  upper := upper
  stageTwo := stageTwo
  leaf := leaf
  entries := by rw [same.entries, same.params]; exact tracked.entries
  pages := by
    have pages := tracked.pages
    simp only [pagesInFlight, queuedPages, upperPage?] at pages ⊢
    rw [same.params, same.page, same.guestPages, same.lookups, same.walked]
    exact pages

theorem Proceeds.of_unmoved
    {readsBefore : Nat} {outcome : Outcome Tlb} (uneventful : outcome.Uneventful)
    (unmoved : Unmoved tlb outcome.state) (queues : QueuesTracked tlb)
    (reads : ReadsTracked readsBefore outcome.state)
    (pages : ∃ ticket, PagesTracked outcome.state ticket)
    (confined : outcome.state.params.stageTwoId = 0 → Confined outcome.state) :
    Proceeds readsBefore tlb outcome :=
  .of_uneventful uneventful ⟨reads, pages, unmoved.queues queues, confined⟩ unmoved.framed
    unmoved.responses unmoved.held

theorem Proceeds.of_same
    {readsBefore : Nat} {outcome : Outcome Tlb} (uneventful : outcome.Uneventful)
    (same : outcome.state = tlb) (coherent : Coherent readsBefore tlb) :
    Proceeds readsBefore tlb outcome := by
  refine .of_uneventful uneventful ?_ ?_ ?_ ?_
  all_goals rw [same]
  · exact coherent
  · exact .refl tlb

/-- What the leaf walker's part of `Confined` needs. -/
theorem Confined.congr
    (confined : Confined tlb) (leaf : after.leaf.heldRequests = tlb.leaf.heldRequests)
    (upper : after.upper.dispatch? = none) (cache : after.cache.Stocked guestPointers) :
    Confined after where
  leaf := leaf.trans confined.leaf
  upper := upper
  cache := cache

end Congruence

/-! ## States with one part changed -/

section Parts

variable {readsBefore : Nat} {tlb : Tlb}

/-- Registers, responses and counters are not tracked. -/
theorem Coherent.recounted
    (coherent : Coherent readsBefore tlb) {registers : Registers} {responses : List Response}
    {counters : TlbCounters} :
    Coherent readsBefore
      { tlb with registers := registers, responses := responses, counters := counters } := by
  obtain ⟨ticket, tracked⟩ := coherent.pages
  exact
    { reads := { coherent.reads with }
      pages := ⟨ticket, { tracked with }⟩
      queues := { coherent.queues with }
      confined := fun wraps => { coherent.confined wraps with } }

/-- The upper walker may be freed when it waits for nothing. -/
theorem Coherent.freeUpper
    (coherent : Coherent readsBefore tlb) (page : tlb.upper.awaitedPage? = none)
    (address : tlb.upper.awaitedAddress? = none) {upper : UpperWalker}
    (idle : upper.state = .idle) : Coherent readsBefore { tlb with upper := upper } := by
  obtain ⟨ticket, tracked⟩ := coherent.pages
  obtain ⟨_, noPage, noAddress, noDispatch, bounded⟩ := UpperWalker.moved_of_idle idle
  refine ⟨?_, ⟨ticket, ?_⟩, { coherent.queues with }, fun wraps => ?_⟩
  · exact coherent.reads.of_same
      { SameReads.refl tlb with upper := noAddress.trans address.symm }
  · exact tracked.of_same { SamePages.refl tlb with page := noPage.trans page.symm } bounded
      tracked.stageTwo tracked.leaf
  · have confined := coherent.confined wraps
    exact confined.congr rfl noDispatch confined.cache

/-- A ready upper walker may take a walk. -/
theorem Coherent.startUpper
    (coherent : Coherent readsBefore tlb) (request : UpperRequest)
    (ready : tlb.upper.ready = true) :
    Coherent readsBefore
      { tlb with
        upper := (UpperWalker.accept tlb.params tlb.registers request tlb.upper).state } := by
  obtain ⟨ticket, tracked⟩ := coherent.pages
  obtain ⟨_, page, address, dispatch, bounded⟩ :=
    UpperWalker.accept_moved tlb.params tlb.registers request ready
  obtain ⟨_, noPage, noAddress, _⟩ :=
    UpperWalker.moved_of_idle (UpperWalker.state_of_ready ready)
  refine ⟨?_, ⟨ticket, ?_⟩, { coherent.queues with }, fun wraps => ?_⟩
  · exact coherent.reads.of_same
      { SameReads.refl tlb with upper := address.trans noAddress.symm }
  · exact tracked.of_same { SamePages.refl tlb with page := page.trans noPage.symm } bounded
      tracked.stageTwo tracked.leaf
  · have confined := coherent.confined wraps
    exact confined.congr rfl dispatch confined.cache

/-- A ready leaf walker may take a walk, unless it is out of use. -/
theorem Coherent.startLeaf
    (coherent : Coherent readsBefore tlb) (leaf : LeafRequest) (ready : tlb.leaf.ready = true)
    (used : tlb.params.stageTwoId ≠ 0) :
    Coherent readsBefore
      { tlb with leaf := (LeafWalker.accept tlb.params leaf tlb.leaf).state } := by
  obtain ⟨ticket, tracked⟩ := coherent.pages
  refine ⟨?_, ⟨ticket, ?_⟩, { coherent.queues with }, fun wraps => absurd wraps used⟩
  · exact coherent.reads.of_same
      { SameReads.refl tlb with
        leaf := LeafWalker.accept_awaitsBlock tlb.params leaf tracked.leaf.linked ready }
  · exact tracked.of_same
      { SamePages.refl tlb with entries := LeafWalker.accept_size tlb.params leaf ready }
      tracked.upper tracked.stageTwo (tracked.leaf.accept tlb.params leaf ready)

/-- One lookup more may be parked where one is missing to the room for all. -/
theorem Coherent.park
    (coherent : Coherent readsBefore tlb) (room : tlb.reserved + 1 ≤ tlb.params.missQueueSize.toNat)
    {misses : BoundedQueue Lookup} {request : Request}
    (elements : misses.elements = tlb.misses.elements ++ [{ request := request }])
    (capacity : misses.capacity = tlb.misses.capacity) :
    Coherent readsBefore { tlb with misses := misses } := by
  obtain ⟨ticket, tracked⟩ := coherent.pages
  exact ⟨{ coherent.reads with }, ⟨ticket, { tracked with }⟩,
    coherent.queues.park room elements capacity, fun wraps => { coherent.confined wraps with }⟩

/-- The lookup of the upper walker is held beside those of all other units. -/
theorem held_of_upper
    {request : Request} (walked : tlb.upper.state.request = some request)
    {upper : UpperWalker} (free : upper.state.request = none) :
    tlb.held.Perm (request :: { tlb with upper := upper }.held) := by
  apply List.perm_iff_count.2
  intro tested
  simp only [held, walked, free, Option.toList_some, Option.toList_none, List.count_append,
    List.count_cons, List.count_nil]
  omega

theorem held_startUpper (request : UpperRequest) (ready : tlb.upper.ready = true) :
    (request.request :: tlb.held).Perm
      { tlb with
        upper := (UpperWalker.accept tlb.params tlb.registers request tlb.upper).state }.held := by
  let walking : Tlb :=
    { tlb with
      upper := (UpperWalker.accept tlb.params tlb.registers request tlb.upper).state }
  have walked : walking.upper.state.request = some request.request :=
    (UpperWalker.accept_moved tlb.params tlb.registers request ready).1
  have free := (UpperWalker.moved_of_idle (UpperWalker.state_of_ready ready)).1
  exact (held_of_upper walked free).symm

/-- A walk that the leaf walker takes is held, or it replaces a lookup that is dropped. -/
theorem held_startLeaf
    (leaf : LeafRequest) (linked : tlb.leaf.Linked) (ready : tlb.leaf.ready = true) :
    (leaf.request :: tlb.held).Perm
      ((LeafWalker.accept tlb.params leaf tlb.leaf).discarded ++
        { tlb with leaf := (LeafWalker.accept tlb.params leaf tlb.leaf).state }.held) := by
  have accepted := LeafWalker.accept_heldRequests tlb.params leaf linked ready
  apply List.perm_iff_count.2
  intro tested
  have counted := accepted.count_eq tested
  simp only [held, List.count_append, List.count_cons] at counted ⊢
  omega

end Parts

/-! ## Blocks -/

section Blocks

variable {readsBefore : Nat} {tlb : Tlb}

/-- The lines that the second-stage walker brings belong to the second stage. -/
private theorem guestPointers_of_refill
    (params : Params) (registers : Registers) (walk : GuestWalk) (address : Word)
    (block : Block) : (walk.refill address block).Brings guestPointers params registers where
  root := fun _ _ _ _ => trivial
  middle := fun _ _ _ _ _ => rfl
  sector := fun _ _ _ => trivial
  superpage := fun _ _ _ => trivial

/-- The reader that a block was delivered to stops waiting. -/
theorem BlockDelivered.awaits_self
    {after : Tlb} {id : Nat} {block : Block} (delivered : BlockDelivered tlb id block after)
    (upper : tlb.upper.Bounded) (stageTwo : tlb.stageTwo.Bounded) :
    after.awaitsBlock id = false := by
  cases delivered with
  | upper walk address reader waits =>
      have awaited := UpperWalker.awaitedAddress_of_memoryWait waits
      have moved :=
        UpperWalker.takeBlock_moved tlb.params tlb.registers block awaited upper
      subst reader
      rw [awaitsBlock_upper, moved.address]
      rfl
  | stageTwo walk address reader waits =>
      have awaited := StageTwoWalker.awaitedAddress_of_memoryWait waits
      obtain ⟨_, free, _⟩ :=
        StageTwoWalker.takeBlock_spec tlb.params tlb.registers block awaited stageTwo
      subst reader
      rw [awaitsBlock_stageTwo, free]
      rfl
  | leaf first second waits =>
      have awaited := (LeafWalker.awaitsBlock_iff tlb.leaf id).2 waits
      have taken := LeafWalker.takeBlock_awaitsBlock tlb.params block awaited id
      rw [bne_self_eq_false, Bool.and_false] at taken
      rw [← taken]
      exact awaitsBlock_leaf first second

/-- All other readers wait as before. -/
theorem BlockDelivered.awaits_others
    {after : Tlb} {id : Nat} {block : Block} (delivered : BlockDelivered tlb id block after)
    {other : Nat} (different : other ≠ id) : after.awaitsBlock other = tlb.awaitsBlock other := by
  cases delivered with
  | upper walk address reader waits =>
      subst reader
      exact awaitsBlock_congr rfl (absurd · different) (fun _ => rfl) fun _ _ => rfl
  | stageTwo walk address reader waits =>
      subst reader
      exact awaitsBlock_congr rfl (fun _ => rfl) (absurd · different) fun _ _ => rfl
  | leaf first second waits =>
      have awaited := (LeafWalker.awaitsBlock_iff tlb.leaf id).2 waits
      refine awaitsBlock_congr rfl (fun _ => rfl) (fun _ => rfl) fun _ _ => ?_
      rw [LeafWalker.takeBlock_awaitsBlock tlb.params block awaited other,
        bne_iff_ne.2 different, Bool.and_true]

theorem BlockDelivered.unmoved
    {after : Tlb} {id : Nat} {block : Block} (delivered : BlockDelivered tlb id block after)
    (upper : tlb.upper.Bounded) (stageTwo : tlb.stageTwo.Bounded) : Unmoved tlb after := by
  cases delivered with
  | upper walk address reader waits =>
      have awaited := UpperWalker.awaitedAddress_of_memoryWait waits
      have moved :=
        UpperWalker.takeBlock_moved tlb.params tlb.registers block awaited upper
      have level : (walk.refill address block).level ≤ leafLevel :=
        Nat.le_succ_of_le (upper walk (by rw [waits]; rfl))
      have refilled := Cache.refill_spec tlb.params tlb.registers tlb.cache level
      exact { Unmoved.refl tlb with lookups := refilled.1, upper := moved.request }
  | stageTwo walk address reader waits =>
      have level : (walk.refill address block).level ≤ leafLevel :=
        stageTwo walk (by rw [waits]; rfl)
      have refilled := Cache.refill_spec tlb.params tlb.registers tlb.cache level
      exact { Unmoved.refl tlb with lookups := refilled.1 }
  | leaf first second waits =>
      have awaited := (LeafWalker.awaitsBlock_iff tlb.leaf id).2 waits
      have taken := LeafWalker.takeBlock_heldRequests tlb.params block awaited
      have level : ((tlb.leaf.entry id).refill block).level ≤ leafLevel := Nat.le_refl _
      have refilled := Cache.refill_spec tlb.params tlb.registers tlb.cache level
      exact { Unmoved.refl tlb with lookups := refilled.1, leaf := taken }

theorem BlockDelivered.pages
    {after : Tlb} {id : Nat} {block : Block} {ticket : Option (Nat × Word)}
    (delivered : BlockDelivered tlb id block after) (tracked : PagesTracked tlb ticket) :
    PagesTracked after ticket := by
  have unmoved := delivered.unmoved tracked.upper tracked.stageTwo
  cases delivered with
  | upper walk address reader waits =>
      have awaited := UpperWalker.awaitedAddress_of_memoryWait waits
      have moved :=
        UpperWalker.takeBlock_moved tlb.params tlb.registers block awaited tracked.upper
      have page := moved.page.trans (UpperWalker.awaitedPage_of_awaitedAddress awaited).symm
      exact tracked.of_same { SamePages.refl tlb with page := page, lookups := unmoved.lookups }
        moved.bounded tracked.stageTwo tracked.leaf
  | stageTwo walk address reader waits =>
      have awaited := StageTwoWalker.awaitedAddress_of_memoryWait waits
      obtain ⟨walked, _, bounded⟩ :=
        StageTwoWalker.takeBlock_spec tlb.params tlb.registers block awaited tracked.stageTwo
      exact tracked.of_same
        { SamePages.refl tlb with
          lookups := unmoved.lookups
          walked := walked }
        tracked.upper bounded tracked.leaf
  | leaf first second waits =>
      have awaited := (LeafWalker.awaitsBlock_iff tlb.leaf id).2 waits
      have size := (LeafWalker.takeBlock_spec tlb.params block waits).1.size
      exact tracked.of_same
        { SamePages.refl tlb with
          entries := size
          lookups := unmoved.lookups }
        tracked.upper tracked.stageTwo (tracked.leaf.takeBlock tlb.params block awaited)

theorem BlockDelivered.confined
    {after : Tlb} {id : Nat} {block : Block} (delivered : BlockDelivered tlb id block after)
    (confined : Confined tlb) (stageTwo : tlb.stageTwo.Bounded)
    (wraps : tlb.params.stageTwoId = 0) (inside : id < tlb.params.readers) :
    Confined after := by
  have zero : id = 0 ∧ id ≠ tlb.params.upperId := by
    have distinct := tlb.params.stageTwoId_ne_upperId
    rcases tlb.params.ids_cases with ⟨second, _⟩ | ⟨_, count, _⟩
    · omega
    · omega
  cases delivered with
  | upper walk address reader waits =>
      exact absurd reader zero.2
  | stageTwo walk address reader waits =>
      have level : (walk.refill address block).level ≤ leafLevel :=
        stageTwo walk (by rw [waits]; rfl)
      exact confined.congr rfl confined.upper
        (confined.cache.refill (guestPointers_of_refill _ _ walk address block) level)
  | leaf first second waits =>
      exact absurd (zero.1.trans wraps.symm) second

private theorem BlockDelivered.accounts
    {after : Tlb} {id : Nat} {block : Block} (delivered : BlockDelivered tlb id block after) :
    after.memory = tlb.memory ∧ after.reads = tlb.reads ∧ after.staleReads = tlb.staleReads := by
  cases delivered <;> exact ⟨rfl, rfl, rfl⟩

private theorem ReadsTracked.drop
    (tracked : ReadsTracked readsBefore tlb) {read : PendingRead} {rest : List PendingRead}
    (oldest : tlb.memory.pending = read :: rest) (inside : read.id < tlb.params.readers)
    (stale : 0 < tlb.staleReads.getD read.id 0) (counters : TlbCounters) :
    ReadsTracked readsBefore
      { tlb.arrived read.id with
        staleReads := tlb.staleReads.modify read.id (· - 1)
        counters := counters } := by
  refine tracked.receive oldest rfl rfl Array.size_modify Array.size_modify ?_ fun _ => ?_
  · intro id _ different
    exact ⟨getD_modify_of_ne _ different _, getD_modify_of_ne _ different _, rfl⟩
  · unfold Accounted arrived
    dsimp only
    rw [getD_modify_self (by rw [tracked.readers]; exact inside),
      getD_modify_self (by rw [tracked.staleReaders]; exact inside)]
    exact (tracked.account_of_oldest oldest inside).drop stale

private theorem ReadsTracked.deliver
    (tracked : ReadsTracked readsBefore tlb) {read : PendingRead} {rest : List PendingRead}
    (oldest : tlb.memory.pending = read :: rest)
    (fresh : tlb.staleReads.getD read.id 0 = 0) {after : Tlb}
    (delivered : BlockDelivered (tlb.arrived read.id) read.id read.block after)
    (upper : tlb.upper.Bounded) (stageTwo : tlb.stageTwo.Bounded) :
    ReadsTracked readsBefore after := by
  obtain ⟨memory, reads, stale⟩ := delivered.accounts
  have unmoved := delivered.unmoved upper stageTwo
  have counted : after.reads = tlb.reads.modify read.id (· - 1) := reads
  have unchanged : after.staleReads = tlb.staleReads := stale
  refine tracked.receive oldest unmoved.params memory (by rw [counted, Array.size_modify])
    (by rw [unchanged]) ?_ fun inside => ?_
  · intro id _ different
    rw [counted, unchanged]
    exact ⟨getD_modify_of_ne _ different _, rfl, delivered.awaits_others different⟩
  · have account := tracked.account_of_oldest oldest inside
    rw [fresh] at account
    unfold Accounted
    rw [memory, counted, unchanged, fresh, delivered.awaits_self upper stageTwo,
      getD_modify_self (by rw [tracked.readers]; exact inside)]
    exact account.deliver

/-- A block for a reader that does not exist leaves all accounts as they are. -/
private theorem ReadsTracked.overflow
    (tracked : ReadsTracked readsBefore tlb) {read : PendingRead} {rest : List PendingRead}
    (oldest : tlb.memory.pending = read :: rest) (outside : tlb.params.readers ≤ read.id) :
    ReadsTracked readsBefore { tlb with memory := tlb.memory.dropOldest } := by
  refine tracked.receive oldest rfl rfl rfl rfl (fun _ _ _ => ⟨rfl, rfl, rfl⟩) fun inside => ?_
  exact absurd inside (Nat.not_lt_of_le outside)

theorem Coherent.receiveBlock (coherent : Coherent readsBefore tlb) :
    Proceeds readsBefore tlb tlb.receiveBlock := by
  obtain ⟨ticket, tracked⟩ := coherent.pages
  have received := receiveBlock_cases coherent.reads tracked.upper tracked.stageTwo
  generalize tlb.receiveBlock = outcome at received ⊢
  cases received with
  | nothing _ state uneventful =>
      exact .of_same uneventful state coherent
  | overflow read rest oldest outside state fault keeps =>
      have known := coherent.reads.known read (by rw [oldest]; exact List.mem_cons_self)
      have wraps := Params.wraps_of_overflow known outside
      refine ⟨⟨?_, ⟨ticket, ?_⟩, ?_, ?_⟩, ?_, ?_, ?_⟩
      · rw [state]
        exact coherent.reads.overflow oldest outside
      · rw [state]
        exact { tracked with }
      · rw [state]
        exact { coherent.queues with }
      · rw [state]
        exact fun wrapped => { coherent.confined wrapped with }
      · rw [state]
        exact { Framed.refl tlb with }
      · rw [state, keeps]
        exact accounts_of_held rfl (List.Perm.refl _)
      · intro cause stopped
        rw [fault] at stopped
        cases stopped
        exact .overflow read.id wraps outside
  | stale read rest oldest inside old counters state uneventful =>
      refine .of_unmoved uneventful ?_ coherent.queues ?_ ⟨ticket, ?_⟩ ?_
      all_goals rw [state]
      · exact { Unmoved.refl tlb with }
      · exact coherent.reads.drop oldest inside old counters
      · exact { tracked with }
      · exact fun wrapped => { coherent.confined wrapped with }
  | live read rest oldest inside fresh awaited delivered uneventful =>
      have arrived : PagesTracked (tlb.arrived read.id) ticket := { tracked with }
      have unmoved := delivered.unmoved tracked.upper tracked.stageTwo
      refine .of_unmoved uneventful ?_ coherent.queues ?_ ⟨ticket, ?_⟩ ?_
      · exact { unmoved with }
      · exact coherent.reads.deliver oldest fresh delivered tracked.upper tracked.stageTwo
      · exact delivered.pages arrived
      · intro wraps
        rw [unmoved.params] at wraps
        have before : Confined (tlb.arrived read.id) := { coherent.confined wraps with }
        exact delivered.confined before tracked.stageTwo wraps inside

end Blocks

/-! ## Second-stage results -/

section Pages

variable {readsBefore : Nat} {tlb : Tlb}

private theorem PageDelivered.busy
    {ticket : Option (Nat × Word)} {page : Nat × Word} (orderly : tlb.leaf.Orderly ticket)
    (waits : ticket = some page) : tlb.leaf.stageTwoBusy = true := by
  rw [orderly.busy, waits]
  rfl

theorem PageDelivered.unmoved
    {after : Tlb} {ticket : Option (Nat × Word)} {id : Nat} {page : Word}
    {result : StageTwoResult} (delivered : PageDelivered tlb ticket id page result after)
    (upper : tlb.upper.Bounded) (orderly : tlb.leaf.Orderly ticket) : Unmoved tlb after := by
  cases delivered with
  | upper reader waits others =>
      have moved :=
        (UpperWalker.takeStageTwo_moved tlb.params tlb.registers result waits upper).1
      exact { Unmoved.refl tlb with upper := moved.request }
  | leaf reader waits others =>
      have held :=
        LeafWalker.takeStageTwo_heldRequests tlb.params id result orderly.linked
          (PageDelivered.busy orderly waits)
      exact { Unmoved.refl tlb with leaf := held }

/-- A translation changes nothing about the reads on their way. -/
theorem PageDelivered.reads
    {after : Tlb} {ticket : Option (Nat × Word)} {id : Nat} {page : Word}
    {result : StageTwoResult} (delivered : PageDelivered tlb ticket id page result after)
    (upper : tlb.upper.Bounded) (orderly : tlb.leaf.Orderly ticket)
    (tracked : ReadsTracked readsBefore tlb) : ReadsTracked readsBefore after := by
  cases delivered with
  | upper reader waits others =>
      have moved :=
        (UpperWalker.takeStageTwo_moved tlb.params tlb.registers result waits upper).1
      have address :=
        moved.address.trans (UpperWalker.awaitedAddress_of_awaitedPage waits).symm
      exact tracked.of_same { SameReads.refl tlb with upper := address }
  | leaf reader waits others =>
      exact tracked.of_same
        { SameReads.refl tlb with
          leaf := LeafWalker.takeStageTwo_awaitsBlock tlb.params id result orderly.linked
            (PageDelivered.busy orderly waits) }

/-- The walker that got its translation waits for none. -/
theorem PageDelivered.pages
    {after : Tlb} {ticket : Option (Nat × Word)} {id : Nat} {page : Word}
    {result : StageTwoResult} (delivered : PageDelivered tlb ticket id page result after)
    (upper : tlb.upper.Bounded) (stageTwo : tlb.stageTwo.Bounded)
    (orderly : tlb.leaf.Orderly ticket)
    (entries : tlb.leaf.entries.size = tlb.params.leafWalkerSize.toNat) :
    ∃ ticket, PagesTracked after ticket := by
  cases delivered with
  | upper reader waits others =>
      have moved :=
        (UpperWalker.takeStageTwo_moved tlb.params tlb.registers result waits upper).1
      refine ⟨ticket, moved.bounded, stageTwo, orderly, entries, ?_⟩
      unfold upperPage?
      rw [moved.page]
      exact others
  | leaf reader waits others =>
      subst waits
      have busy := PageDelivered.busy orderly rfl
      refine ⟨none, upper, stageTwo, orderly.takeStageTwo tlb.params result, ?_, ?_⟩
      · exact (LeafWalker.takeStageTwo_size tlb.params id result orderly.linked busy).trans
          entries
      · rw [Option.toList_none, List.append_nil]
        exact others

theorem PageDelivered.confined
    {after : Tlb} {ticket : Option (Nat × Word)} {id : Nat} {page : Word}
    {result : StageTwoResult} (delivered : PageDelivered tlb ticket id page result after)
    (upper : tlb.upper.Bounded) (orderly : tlb.leaf.Orderly ticket)
    (confined : Confined tlb) : Confined after := by
  have unmoved := delivered.unmoved upper orderly
  cases delivered with
  | upper reader waits others =>
      exact confined.congr rfl
        (UpperWalker.takeStageTwo_moved tlb.params tlb.registers result waits upper).2
        confined.cache
  | leaf reader waits others =>
      exact confined.congr unmoved.leaf confined.upper confined.cache

theorem Coherent.routeReply (coherent : Coherent readsBefore tlb) :
    Proceeds readsBefore tlb tlb.routeReply := by
  obtain ⟨ticket, tracked⟩ := coherent.pages
  obtain ⟨replied, uneventful⟩ := routeReply_cases tracked
  generalize tlb.routeReply = outcome at replied uneventful ⊢
  generalize reached : outcome.state = after at replied
  cases replied with
  | nothing =>
      exact .of_same uneventful reached coherent
  | delivered reply finished delivered =>
      have found : tlb.stageTwo.reply? = some reply := by
        unfold StageTwoWalker.reply?
        rw [finished]
      have idle := (StageTwoWalker.takeReply_spec tlb.params found).1
      obtain ⟨_, address, bounded⟩ := StageTwoWalker.observations_of_idle idle
      have before := StageTwoWalker.awaitedAddress_of_respond finished
      have reads :
          ReadsTracked readsBefore
            { tlb with
              stageTwo := (StageTwoWalker.takeReply tlb.params tlb.stageTwo).state } :=
        coherent.reads.of_same { SameReads.refl tlb with stageTwo := address.trans before.symm }
      have unmoved := delivered.unmoved tracked.upper tracked.leaf
      refine .of_unmoved uneventful ?_ coherent.queues ?_ ?_ ?_
      all_goals rw [reached]
      · exact { unmoved with }
      · exact delivered.reads tracked.upper tracked.leaf reads
      · exact delivered.pages tracked.upper bounded tracked.leaf tracked.entries
      · intro wraps
        rw [unmoved.params] at wraps
        exact delivered.confined tracked.upper tracked.leaf
          { coherent.confined wraps with }

end Pages

/-! ## Leaf walks -/

section LeafWalks

variable {readsBefore : Nat} {tlb : Tlb}

theorem Coherent.dispatch (coherent : Coherent readsBefore tlb) :
    Proceeds readsBefore tlb tlb.dispatch := by
  obtain ⟨ticket, tracked⟩ := coherent.pages
  obtain ⟨dispatched, running⟩ := dispatch_cases tlb
  generalize tlb.dispatch = outcome at dispatched running ⊢
  generalize reached : outcome.state = after at dispatched
  generalize discards : outcome.discarded = dropped at dispatched
  cases dispatched with
  | nothing =>
      exact .of_same ⟨running, discards⟩ reached coherent
  | handed leaf finished ready =>
      obtain ⟨request, page, address⟩ := UpperWalker.quiet_of_dispatch finished
      have idle := (UpperWalker.takeDispatch_spec tlb.params finished).1
      have used : tlb.params.stageTwoId ≠ 0 := by
        intro wraps
        have none := (coherent.confined wraps).upper
        rw [finished] at none
        cases none
      have freed := coherent.freeUpper page address idle
      refine .of_running running ?_ ?_ ?_
      all_goals rw [reached]
      · exact freed.startLeaf leaf ready used
      · exact { Framed.refl tlb with }
      · rw [discards]
        refine ⟨[], (List.append_nil _).symm, ?_⟩
        have free := (UpperWalker.moved_of_idle idle).1
        exact (held_of_upper request free).trans
          (held_startLeaf leaf tracked.leaf.linked ready)

end LeafWalks

/-! ## Answers of the cache -/

section Answers

variable {readsBefore : Nat} {tlb : Tlb} {answer : CacheAnswer}

/-- An answer that was taken leaves a coherent state with room for its lookup. -/
private theorem Coherent.released
    (coherent : Coherent readsBefore tlb) (found : tlb.cache.answer = some answer)
    (lookup : answer.lookup.probe = false) :
    Coherent readsBefore (tlb.released answer) ∧
      (tlb.released answer).reserved + 1 ≤ tlb.params.missQueueSize.toNat ∧
      tlb.held.Perm (answer.lookup.request :: (tlb.released answer).held) := by
  obtain ⟨ticket, tracked⟩ := coherent.pages
  have lookups := lookups_of_answer found
  have outside : unprobed tlb.cache.lookups =
      answer.lookup :: unprobed (tlb.released answer).cache.lookups := by
    rw [lookups, unprobed_cons_of_lookup lookup]
    rfl
  obtain ⟨queues, room⟩ := coherent.queues.released found lookup
  have pages : PagesTracked (tlb.released answer) ticket :=
    { tracked with
      pages := by
        have pages := tracked.pages
        unfold pagesInFlight at pages ⊢
        rw [lookups, probedPages_cons_of_lookup lookup] at pages
        exact pages }
  refine ⟨⟨?_, ⟨ticket, pages⟩, queues, fun wraps => ?_⟩, room, ?_⟩
  · exact { coherent.reads with }
  · have confined := coherent.confined wraps
    exact ⟨confined.leaf, confined.upper, confined.cache.withoutAnswer answer⟩
  · apply List.perm_iff_count.2
    intro tested
    simp only [held, outside, List.map_cons, List.count_append, List.count_cons]
    change _ = List.count tested tlb.inputs.elements +
      List.count tested (tlb.misses.elements.map (·.request)) + _ +
      List.count tested tlb.upper.state.request.toList +
      List.count tested tlb.leaf.heldRequests + _
    omega

/-- With the leaf walker out of use, no lookup of the first stage finds a middle
pointer. -/
private theorem Confined.stageTwo_of_middle
    (confined : Confined tlb) (found : tlb.cache.answer = some answer)
    (middle : answer.hint.middle = true) : answer.lookup.request.mode = .stageTwo := by
  obtain ⟨checked, backed, registers, bypassed, same⟩ := confined.cache.piped.answer answer found
  subst same
  obtain ⟨line, hit⟩ := Option.isSome_iff_exists.1 middle
  obtain ⟨mode, tag⟩ := backed.middle line hit
  exact tag.1.symm.trans mode

private theorem Coherent.routeProbe
    (coherent : Coherent readsBefore tlb) {ticket : Option (Nat × Word)}
    (tracked : PagesTracked tlb ticket) (found : tlb.cache.answer = some answer)
    (probe : answer.lookup.probe = true) {outcome : Outcome Tlb}
    (uneventful : outcome.Uneventful) (routed : ProbeRouted tlb ticket answer outcome.state) :
    Proceeds readsBefore tlb outcome := by
  have outside : unprobed tlb.cache.lookups = unprobed (tlb.popped answer).cache.lookups := by
    rw [lookups_of_answer found, unprobed_cons_of_probe probe]
  have held : tlb.held.Perm (tlb.popped answer).held := by
    unfold Tlb.held
    rw [outside]
    exact List.Perm.refl _
  have queues := coherent.queues.popped found probe
  have reads : ReadsTracked readsBefore (tlb.popped answer) :=
    { coherent.reads with }
  have confined (wraps : tlb.params.stageTwoId = 0) : Confined (tlb.popped answer) := by
    have confined := coherent.confined wraps
    exact ⟨confined.leaf, confined.upper, confined.cache.withoutAnswer answer⟩
  generalize reached : outcome.state = after at routed
  cases routed with
  | hit hit counters delivered =>
      have unmoved := delivered.unmoved tracked.upper tracked.leaf
      refine .of_uneventful uneventful ⟨?_, ?_, ?_, ?_⟩ ?_ ?_ ?_
      all_goals rw [reached]
      · exact delivered.reads tracked.upper tracked.leaf { reads with }
      · exact delivered.pages tracked.upper tracked.stageTwo tracked.leaf tracked.entries
      · exact unmoved.queues { queues with }
      · intro wraps
        rw [unmoved.params] at wraps
        exact delivered.confined tracked.upper tracked.leaf { confined wraps with }
      · exact { unmoved.framed with }
      · exact unmoved.responses
      · exact held.trans unmoved.held
  | queued missed guestPages elements capacity =>
      refine .of_uneventful uneventful ⟨?_, ⟨ticket, ?_⟩, ?_, ?_⟩ ?_ ?_ ?_
      all_goals rw [reached]
      · exact { reads with }
      · refine { tracked with pages := ?_ }
        have pages := tracked.pages
        rw [pagesInFlight_of_probe found probe] at pages
        refine List.Perm.trans ?_ pages
        have queued :
            queuedPages { tlb.popped answer with guestPages := guestPages } =
              (tlb.popped answer).queuedPages ++
                [(answer.lookup.id, answer.lookup.request.vpn)] := by
          unfold queuedPages
          rw [elements, List.map_append]
          rfl
        unfold pagesInFlight
        rw [queued, ← List.append_assoc, List.append_assoc _ [_]]
        exact List.perm_middle
      · exact { queues with pageCapacity := capacity.trans queues.pageCapacity }
      · exact fun wraps => { confined wraps with }
      · exact { Framed.refl tlb with }
      · rfl
      · exact held

private theorem Coherent.routeLookup
    (coherent : Coherent readsBefore tlb) (found : tlb.cache.answer = some answer)
    (lookup : answer.lookup.probe = false) {outcome : Outcome Tlb}
    (running : outcome.fault = none)
    (routed : LookupRouted tlb answer outcome.state outcome.discarded) :
    Proceeds readsBefore tlb outcome := by
  obtain ⟨released, room, held⟩ := coherent.released found lookup
  obtain ⟨ticket, tracked⟩ := released.pages
  generalize reached : outcome.state = after at routed
  generalize discards : outcome.discarded = dropped at routed
  cases routed with
  | hit hit counters =>
      refine .of_running running ?_ ?_ ?_
      all_goals rw [reached]
      · exact released.recounted
      · exact { Framed.refl tlb with }
      · rw [discards]
        exact ⟨[responseOfHit answer], rfl, held⟩
  | parked missed misses elements capacity counters =>
      refine .of_running running ?_ ?_ ?_
      all_goals rw [reached]
      · exact (released.park room elements capacity).recounted
      · exact { Framed.refl tlb with }
      · rw [discards]
        refine accounts_of_held rfl (held.trans ?_)
        apply List.perm_iff_count.2
        intro tested
        have added :
            misses.elements =
              (tlb.released answer).misses.elements ++ [{ request := answer.lookup.request }] :=
          elements
        simp only [Tlb.held, added, List.map_append, List.map_cons, List.map_nil,
          List.count_append, List.count_cons, List.count_nil]
        omega
  | leaf missed middle first ready counters =>
      have used : tlb.params.stageTwoId ≠ 0 := fun wraps =>
        first ((coherent.confined wraps).stageTwo_of_middle found middle)
      refine .of_running running ?_ ?_ ?_
      all_goals rw [reached]
      · exact (released.startLeaf ⟨answer.lookup.request, answer.hint.ppn⟩ ready used).recounted
      · exact { Framed.refl tlb with }
      · rw [discards]
        refine ⟨[], (List.append_nil _).symm, held.trans ?_⟩
        exact held_startLeaf ⟨answer.lookup.request, answer.hint.ppn⟩ tracked.leaf.linked ready
  | upper missed walks ready counters =>
      refine .of_running running ?_ ?_ ?_
      all_goals rw [reached]
      · exact (released.startUpper
          ⟨answer.lookup.request, answer.hint.root, answer.hint.ppn⟩ ready).recounted
      · exact { Framed.refl tlb with }
      · rw [discards]
        refine accounts_of_held rfl (held.trans ?_)
        exact held_startUpper ⟨answer.lookup.request, answer.hint.root, answer.hint.ppn⟩ ready

theorem Coherent.routeAnswer (coherent : Coherent readsBefore tlb) :
    Proceeds readsBefore tlb tlb.routeAnswer := by
  obtain ⟨ticket, tracked⟩ := coherent.pages
  obtain ⟨routed, running⟩ := routeAnswer_cases tracked coherent.queues
  generalize tlb.routeAnswer = outcome at routed running ⊢
  generalize reached : outcome.state = after at routed
  generalize discards : outcome.discarded = dropped at routed
  cases routed with
  | nothing =>
      exact .of_same ⟨running, discards⟩ reached coherent
  | probe answer found probe routed =>
      rw [← reached] at routed
      exact coherent.routeProbe tracked found probe ⟨running, discards⟩ routed
  | lookup answer found lookup routed =>
      rw [← reached, ← discards] at routed
      exact coherent.routeLookup found lookup running routed

end Answers

/-! ## Finished walks -/

section Finished

variable {readsBefore : Nat} {tlb : Tlb}

theorem Coherent.collectUpper (coherent : Coherent readsBefore tlb) :
    Proceeds readsBefore tlb tlb.collectUpper := by
  obtain ⟨ticket, tracked⟩ := coherent.pages
  obtain ⟨collected, uneventful⟩ := collectUpper_cases tlb
  generalize tlb.collectUpper = outcome at collected uneventful ⊢
  generalize reached : outcome.state = after at collected
  cases collected with
  | nothing =>
      exact .of_same uneventful reached coherent
  | answered response finished counters =>
      obtain ⟨request, page, address⟩ := UpperWalker.quiet_of_response finished
      have idle := (UpperWalker.takeResponse_spec tlb.params finished).1
      refine .of_running uneventful.running ?_ ?_ ?_
      all_goals rw [reached]
      · exact (coherent.freeUpper page address idle).recounted
      · exact { Framed.refl tlb with }
      · rw [uneventful.keeps]
        refine ⟨[response], rfl, ?_⟩
        exact held_of_upper request (UpperWalker.moved_of_idle idle).1

theorem Coherent.collectLeaf (coherent : Coherent readsBefore tlb) :
    Proceeds readsBefore tlb tlb.collectLeaf := by
  obtain ⟨ticket, tracked⟩ := coherent.pages
  obtain ⟨collected, uneventful⟩ := collectLeaf_cases tlb
  generalize tlb.collectLeaf = outcome at collected uneventful ⊢
  generalize reached : outcome.state = after at collected
  cases collected with
  | nothing =>
      exact .of_same uneventful reached coherent
  | answered index found counters =>
      have taken := LeafWalker.takeFinished_heldRequests tlb.params found
      have size := (LeafWalker.takeFinished_spec tlb.params found).1.size
      refine .of_running uneventful.running ⟨?_, ⟨ticket, ?_⟩, ?_, ?_⟩ ?_ ?_
      all_goals rw [reached]
      · exact coherent.reads.of_same
          { SameReads.refl tlb with
            leaf := LeafWalker.takeFinished_awaitsBlock tlb.params found }
      · exact tracked.of_same { SamePages.refl tlb with entries := size }
          tracked.upper tracked.stageTwo (tracked.leaf.takeFinished tlb.params found)
      · exact { coherent.queues with }
      · intro wraps
        rw [(coherent.confined wraps).leaf] at taken
        exact absurd taken.length_eq (Nat.succ_ne_zero _)
      · exact { Framed.refl tlb with }
      · rw [uneventful.keeps]
        refine ⟨[(tlb.leaf.entry index).response tlb.params tlb.registers], rfl, ?_⟩
        have request :
            ((tlb.leaf.entry index).response tlb.params tlb.registers).request =
              (tlb.leaf.entry index).request := rfl
        apply List.perm_iff_count.2
        intro tested
        have counted := taken.count_eq tested
        simp only [held, request, List.map_cons, List.map_nil, List.count_append,
          List.count_cons, List.count_nil] at counted ⊢
        omega

end Finished

end PageWalk.Tlb
