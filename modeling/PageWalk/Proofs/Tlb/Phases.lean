import PageWalk.Proofs.Cache.Stages
import PageWalk.Proofs.Tlb.Reads

/-!
# What the phases of a step do

Each phase of a step moves something from one unit to another. For every phase this
module lists what it can leave behind, so that no invariant has to open a phase
again. The guest pages that are being translated are tracked here too: without them
the phases that hand a translation over could stop.
-/

namespace PageWalk.Tlb

/-! ## Queues -/

section Queues

variable {Element : Type} {queue after : BoundedQueue Element} {element : Element}

theorem elements_of_send
    (sent : queue.send? element = some after) :
    after.elements = queue.elements ++ [element] ∧ after.capacity = queue.capacity := by
  unfold BoundedQueue.send? at sent
  split at sent
  · cases sent
    exact ⟨rfl, rfl⟩
  · cases sent

theorem send_of_room
    (room : queue.elements.length < queue.capacity) (element : Element) :
    ∃ after, queue.send? element = some after := by
  unfold BoundedQueue.send?
  rw [dif_pos room]
  exact ⟨_, rfl⟩

theorem elements_of_peek
    (oldest : queue.peek? = some element) : queue.elements = element :: queue.tail.elements := by
  have first : queue.elements.head? = some element := oldest
  have rest : queue.tail.elements = queue.elements.tail := rfl
  rw [rest]
  exact List.eq_cons_of_mem_head? first

end Queues

/-! ## Guest pages on their way -/

/-- The guest pages among some lookups in the cache, each behind the reader that
asked for it. -/
def probedPages (lookups : List Lookup) : List (Nat × Word) :=
  (lookups.filter (·.probe)).map fun lookup => (lookup.id, lookup.request.vpn)

theorem unprobed_cons_of_lookup
    {lookup : Lookup} (outside : lookup.probe = false) (lookups : List Lookup) :
    unprobed (lookup :: lookups) = lookup :: unprobed lookups :=
  List.filter_cons_of_pos (by rw [outside]; rfl)

theorem unprobed_cons_of_probe
    {lookup : Lookup} (probe : lookup.probe = true) (lookups : List Lookup) :
    unprobed (lookup :: lookups) = unprobed lookups :=
  List.filter_cons_of_neg (by rw [probe]; exact Bool.false_ne_true)

theorem probedPages_cons_of_lookup
    {lookup : Lookup} (outside : lookup.probe = false) (lookups : List Lookup) :
    probedPages (lookup :: lookups) = probedPages lookups := by
  unfold probedPages
  rw [List.filter_cons_of_neg (by rw [outside]; exact Bool.false_ne_true)]

theorem probedPages_cons_of_probe
    {lookup : Lookup} (probe : lookup.probe = true) (lookups : List Lookup) :
    probedPages (lookup :: lookups) =
      (lookup.id, lookup.request.vpn) :: probedPages lookups := by
  unfold probedPages
  rw [List.filter_cons_of_pos probe]
  rfl

theorem unprobed_append (lookups others : List Lookup) :
    unprobed (lookups ++ others) = unprobed lookups ++ unprobed others :=
  List.filter_append ..

theorem probedPages_append (lookups others : List Lookup) :
    probedPages (lookups ++ others) = probedPages lookups ++ probedPages others := by
  unfold probedPages
  rw [List.filter_append, List.map_append]

/-- The guest pages that wait for the second-stage walker. -/
def queuedPages (tlb : Tlb) : List (Nat × Word) :=
  tlb.guestPages.elements.map fun request => (request.id, request.gvpn)

/-- The guest pages that are being translated: those in the cache, those that wait,
and the one that is walked. -/
def pagesInFlight (tlb : Tlb) : List (Nat × Word) :=
  probedPages tlb.cache.lookups ++ tlb.queuedPages ++ tlb.stageTwo.state.ticket?.toList

/-- The guest page that the upper walker waits for. -/
def upperPage? (tlb : Tlb) : Option (Nat × Word) :=
  tlb.upper.awaitedPage?.map fun page => (tlb.params.upperId, page)

/-- The guest pages that are being translated are those that the two walkers of the
first stage wait for; `ticket` is the leaf walker's. -/
structure PagesTracked (tlb : Tlb) (ticket : Option (Nat × Word)) : Prop where
  upper : tlb.upper.Bounded
  stageTwo : tlb.stageTwo.Bounded
  leaf : tlb.leaf.Orderly ticket
  entries : tlb.leaf.entries.size = tlb.params.leafWalkerSize.toNat
  pages : tlb.pagesInFlight.Perm (tlb.upperPage?.toList ++ ticket.toList)

/-- The queues have room for what may come: every lookup for a place among the
parked ones, and every guest page for one in its queue. -/
structure QueuesTracked (tlb : Tlb) : Prop where
  missCapacity : tlb.misses.capacity = tlb.params.missQueueSize.toNat
  pageCapacity : tlb.guestPages.capacity = guestPageCapacity
  parked : ∀ lookup ∈ tlb.misses.elements, lookup.probe = false
  counted : tlb.lookupsInCache = (unprobed tlb.cache.lookups).length
  room : tlb.reserved ≤ tlb.params.missQueueSize.toNat

private theorem perm_of_first
    {Item : Type} {item : Item} {rest : List Item} {first second : Option Item}
    (perm : (item :: rest).Perm (first.toList ++ second.toList)) (other : second ≠ some item) :
    first = some item ∧ rest.Perm second.toList := by
  have member : item ∈ first.toList ++ second.toList := perm.mem_iff.1 List.mem_cons_self
  rcases List.mem_append.1 member with here | there
  · have found : first = some item := Option.mem_toList.1 here
    subst found
    exact ⟨rfl, perm.cons_inv⟩
  · exact absurd (Option.mem_toList.1 there) other

/-- A guest page that is being translated has one reader, which waits for it. -/
theorem page_owner
    {tlb : Tlb} {ticket : Option (Nat × Word)} (orderly : tlb.leaf.Orderly ticket)
    (entries : tlb.leaf.entries.size = tlb.params.leafWalkerSize.toNat)
    {id : Nat} {page : Word} {rest : List (Nat × Word)}
    (pages : ((id, page) :: rest).Perm (tlb.upperPage?.toList ++ ticket.toList)) :
    (id = tlb.params.upperId ∧ tlb.upper.awaitedPage? = some page ∧
        rest.Perm ticket.toList) ∨
      (id ≠ tlb.params.upperId ∧ id < tlb.params.leafWalkerSize.toNat ∧
        ticket = some (id, page) ∧ rest.Perm tlb.upperPage?.toList) := by
  have inside := orderly.inside
  rw [entries] at inside
  by_cases reader : id = tlb.params.upperId
  · left
    have other : ticket ≠ some (id, page) := by
      intro same
      exact absurd reader (Nat.ne_of_lt (inside _ same))
    obtain ⟨found, others⟩ := perm_of_first pages other
    obtain ⟨awaited, waits, same⟩ := Option.map_eq_some_iff.1 found
    cases same
    exact ⟨reader, waits, others⟩
  · right
    have other : tlb.upperPage? ≠ some (id, page) := by
      intro same
      obtain ⟨awaited, _, same⟩ := Option.map_eq_some_iff.1 same
      cases same
      exact reader rfl
    obtain ⟨found, others⟩ := perm_of_first (pages.trans List.perm_append_comm) other
    exact ⟨reader, inside _ found, found, others⟩

/-! ## The parts -/

section Parts

variable {tlb : Tlb}

theorem onUpper_uneventful
    {operation : UpperWalker → Outcome UpperWalker}
    (uneventful : (operation tlb.upper).Uneventful) : (tlb.onUpper operation).Uneventful :=
  uneventful.map _

theorem onLeaf_uneventful
    {operation : LeafWalker → Outcome LeafWalker}
    (uneventful : (operation tlb.leaf).Uneventful) : (tlb.onLeaf operation).Uneventful :=
  uneventful.map _

theorem onStageTwo_uneventful
    {operation : StageTwoWalker → Outcome StageTwoWalker}
    (uneventful : (operation tlb.stageTwo).Uneventful) :
    (tlb.onStageTwo operation).Uneventful :=
  uneventful.map _

theorem onCache_uneventful
    {operation : Cache → Outcome Cache}
    (uneventful : (operation tlb.cache).Uneventful) : (tlb.onCache operation).Uneventful :=
  uneventful.map _

end Parts

/-! ## Blocks from memory -/

/-- A block was handed to the reader that waited for it, and to the cache. -/
inductive BlockDelivered (tlb : Tlb) (id : Nat) (block : Block) : Tlb → Prop
  | upper (walk : UpperWalk) (address : Word) (reader : id = tlb.params.upperId)
      (waits : tlb.upper.state = .memoryWait walk address) :
      BlockDelivered tlb id block
        { tlb with
          upper := (UpperWalker.takeBlock tlb.params tlb.registers block tlb.upper).state
          cache :=
            (Cache.refill tlb.params tlb.registers (walk.refill address block)
              tlb.cache).state }
  | stageTwo (walk : GuestWalk) (address : Word) (reader : id = tlb.params.stageTwoId)
      (waits : tlb.stageTwo.state = .memoryWait walk address) :
      BlockDelivered tlb id block
        { tlb with
          stageTwo :=
            (StageTwoWalker.takeBlock tlb.params tlb.registers block tlb.stageTwo).state
          cache :=
            (Cache.refill tlb.params tlb.registers (walk.refill address block)
              tlb.cache).state }
  | leaf (first : id ≠ tlb.params.upperId) (second : id ≠ tlb.params.stageTwoId)
      (waits : (tlb.leaf.entry id).state = .memoryWait id) :
      BlockDelivered tlb id block
        { tlb with
          leaf := (LeafWalker.takeBlock tlb.params id block tlb.leaf).state
          cache :=
            (Cache.refill tlb.params tlb.registers ((tlb.leaf.entry id).refill block)
              tlb.cache).state }

theorem deliverBlock_cases
    {tlb : Tlb} {id : Nat} (block : Block) (awaited : tlb.awaitsBlock id = true)
    (upper : tlb.upper.Bounded) (stageTwo : tlb.stageTwo.Bounded) :
    BlockDelivered tlb id block (tlb.deliverBlock id block).state ∧
      (tlb.deliverBlock id block).Uneventful := by
  unfold awaitsBlock at awaited
  unfold deliverBlock
  split at awaited
  · rename_i reader
    obtain ⟨address, waits⟩ := Option.isSome_iff_exists.1 awaited
    obtain ⟨walk, state⟩ := UpperWalker.state_of_awaitedAddress waits
    have level : (walk.refill address block).level ≤ leafLevel :=
      Nat.le_succ_of_le (upper walk (by rw [state]; rfl))
    have taken : (tlb.onUpper (UpperWalker.takeBlock tlb.params tlb.registers block)).Uneventful :=
      onUpper_uneventful (UpperWalker.takeBlock_cases tlb.params tlb.registers block state).2
    rw [if_pos reader, UpperWalker.refill_of_memoryWait state block]
    refine ⟨?_, taken.andThen (onCache_uneventful (Cache.refill_spec _ _ _ level).2)⟩
    rw [Outcome.andThen_state_of_running _ taken.running]
    exact .upper walk address reader state
  · rename_i first
    split at awaited
    · rename_i reader
      obtain ⟨address, waits⟩ := Option.isSome_iff_exists.1 awaited
      obtain ⟨walk, state⟩ := StageTwoWalker.state_of_awaitedAddress waits
      have level : (walk.refill address block).level ≤ leafLevel :=
        stageTwo walk (by rw [state]; rfl)
      have taken :
          (tlb.onStageTwo
            (StageTwoWalker.takeBlock tlb.params tlb.registers block)).Uneventful :=
        onStageTwo_uneventful
          (StageTwoWalker.takeBlock_cases tlb.params tlb.registers block state).2
      rw [if_neg first, if_pos reader, StageTwoWalker.refill_of_memoryWait state block]
      refine ⟨?_, taken.andThen (onCache_uneventful (Cache.refill_spec _ _ _ level).2)⟩
      rw [Outcome.andThen_state_of_running _ taken.running]
      exact .stageTwo walk address reader state
    · rename_i second
      have waits := (LeafWalker.awaitsBlock_iff tlb.leaf id).1 awaited
      have level : ((tlb.leaf.entry id).refill block).level ≤ leafLevel := Nat.le_refl _
      have taken : (tlb.onLeaf (LeafWalker.takeBlock tlb.params id block)).Uneventful :=
        onLeaf_uneventful (LeafWalker.takeBlock_spec tlb.params block waits).2.2
      rw [if_neg first, if_neg second, LeafWalker.refill_spec waits block]
      refine ⟨?_, taken.andThen (onCache_uneventful (Cache.refill_spec _ _ _ level).2)⟩
      rw [Outcome.andThen_state_of_running _ taken.running]
      exact .leaf first second waits

/-- The TLB after the oldest read was answered and taken off its reader's account. -/
def arrived (tlb : Tlb) (id : Nat) : Tlb :=
  { tlb with memory := tlb.memory.dropOldest, reads := tlb.reads.modify id (· - 1) }

inductive Received (tlb : Tlb) (outcome : Outcome Tlb) : Prop
  | nothing (none : tlb.memory.dueReply? = none) (state : outcome.state = tlb)
      (uneventful : outcome.Uneventful)
  /-- There is no such reader. -/
  | overflow (read : PendingRead) (rest : List PendingRead)
      (oldest : tlb.memory.pending = read :: rest)
      (outside : tlb.params.readers ≤ read.id)
      (state : outcome.state = { tlb with memory := tlb.memory.dropOldest })
      (fault :
        outcome.fault = some (.misuse tlb.params.name (.memoryIdOverflow read.id)))
      (keeps : outcome.discarded = [])
  /-- The read was flushed. -/
  | stale (read : PendingRead) (rest : List PendingRead)
      (oldest : tlb.memory.pending = read :: rest)
      (inside : read.id < tlb.params.readers)
      (stale : 0 < tlb.staleReads.getD read.id 0) (counters : TlbCounters)
      (state : outcome.state =
        { tlb.arrived read.id with
          staleReads := tlb.staleReads.modify read.id (· - 1)
          counters := counters })
      (uneventful : outcome.Uneventful)
  /-- The read is awaited. -/
  | live (read : PendingRead) (rest : List PendingRead)
      (oldest : tlb.memory.pending = read :: rest)
      (inside : read.id < tlb.params.readers)
      (fresh : tlb.staleReads.getD read.id 0 = 0)
      (awaited : tlb.awaitsBlock read.id = true)
      (delivered :
        BlockDelivered (tlb.arrived read.id) read.id read.block outcome.state)
      (uneventful : outcome.Uneventful)

theorem receiveBlock_of_quiet
    {tlb : Tlb} (quiet : tlb.memory.dueReply? = none) : tlb.receiveBlock = { state := tlb } := by
  unfold receiveBlock Memory.receive?
  rw [quiet]
  rfl

/-- The reply to the oldest read is taken by a TLB that the read has left. -/
theorem receiveBlock_of_due
    {tlb : Tlb} {reply : MemoryReply} (due : tlb.memory.dueReply? = some reply) :
    tlb.receiveBlock =
      let taken := acceptReply reply { tlb with memory := tlb.memory.dropOldest }
      { taken with notes := tlb.memory.note (.answered reply.id) :: taken.notes } := by
  unfold receiveBlock Memory.receive?
  rw [due]
  rfl

private theorem acceptReply_of_reads
    {tlb : Tlb} {read : PendingRead} (positive : 0 < tlb.reads.getD read.id 0) :
    acceptReply ⟨read.id, read.block⟩ { tlb with memory := tlb.memory.dropOldest } =
      if 0 < tlb.staleReads.getD read.id 0 then
        dropBlock read.id (tlb.arrived read.id)
      else
        deliverBlock read.id read.block (tlb.arrived read.id) := by
  rw [Array.getD_eq_getD_getElem?] at positive
  unfold acceptReply
  cases count : tlb.reads[read.id]? with
  | none =>
      rw [count] at positive
      cases positive
  | some reads =>
      rw [count] at positive
      cases reads with
      | zero => cases positive
      | succ others => rfl

theorem receiveBlock_cases
    {tlb : Tlb} {readsBefore : Nat} (tracked : ReadsTracked readsBefore tlb)
    (upper : tlb.upper.Bounded) (stageTwo : tlb.stageTwo.Bounded) :
    Received tlb tlb.receiveBlock := by
  cases due : tlb.memory.dueReply? with
  | none =>
      rw [receiveBlock_of_quiet due]
      exact .nothing due rfl ⟨rfl, rfl⟩
  | some reply =>
      obtain ⟨read, rest, oldest, same⟩ := Memory.dueReply_spec due
      subst same
      rw [receiveBlock_of_due due]
      by_cases outside : tlb.params.readers ≤ read.id
      · have absent : tlb.reads[read.id]? = none :=
          Array.getElem?_eq_none (by rw [tracked.readers]; exact outside)
        have stopped :
            acceptReply ⟨read.id, read.block⟩ { tlb with memory := tlb.memory.dropOldest } =
              misuse (.memoryIdOverflow read.id)
                { tlb with memory := tlb.memory.dropOldest } := by
          simp only [acceptReply, absent]
        rw [stopped]
        exact .overflow read rest oldest outside rfl rfl rfl
      · have inside : read.id < tlb.params.readers := Nat.lt_of_not_le outside
        have account := tracked.account_of_oldest oldest inside
        have positive := account.reads_pos
        rw [acceptReply_of_reads positive]
        by_cases old : 0 < tlb.staleReads.getD read.id 0
        · rw [if_pos old]
          exact .stale read rest oldest inside old _ rfl ⟨rfl, rfl⟩
        · rw [if_neg old]
          have fresh : tlb.staleReads.getD read.id 0 = 0 := Nat.eq_zero_of_not_pos old
          rw [fresh] at account
          have awaited := account.awaits_of_fresh
          have arrival : (tlb.arrived read.id).awaitsBlock read.id = true := awaited
          obtain ⟨delivered, uneventful⟩ :=
            deliverBlock_cases read.block arrival upper stageTwo
          exact .live read rest oldest inside fresh awaited delivered
            ⟨uneventful.running, uneventful.keeps⟩

/-! ## Second-stage results -/

/-- A translation was handed to the walker that waited for it, and all other guest
pages that are being translated are those of the other walker. -/
inductive PageDelivered (tlb : Tlb) (ticket : Option (Nat × Word)) (id : Nat) (page : Word)
    (result : StageTwoResult) : Tlb → Prop
  | upper (reader : id = tlb.params.upperId) (waits : tlb.upper.awaitedPage? = some page)
      (others : tlb.pagesInFlight.Perm ticket.toList) :
      PageDelivered tlb ticket id page result
        { tlb with
          upper :=
            (UpperWalker.takeStageTwo tlb.params tlb.registers result tlb.upper).state }
  | leaf (reader : id ≠ tlb.params.upperId) (waits : ticket = some (id, page))
      (others : tlb.pagesInFlight.Perm tlb.upperPage?.toList) :
      PageDelivered tlb ticket id page result
        { tlb with leaf := (LeafWalker.takeStageTwo tlb.params id result tlb.leaf).state }

theorem deliverStageTwo_cases
    {tlb : Tlb} {ticket : Option (Nat × Word)} (orderly : tlb.leaf.Orderly ticket)
    (entries : tlb.leaf.entries.size = tlb.params.leafWalkerSize.toNat)
    {id : Nat} {page : Word} (result : StageTwoResult)
    (pages : ((id, page) :: tlb.pagesInFlight).Perm (tlb.upperPage?.toList ++ ticket.toList)) :
    PageDelivered tlb ticket id page result (tlb.deliverStageTwo id result).state ∧
      (tlb.deliverStageTwo id result).Uneventful := by
  unfold deliverStageTwo
  rcases page_owner orderly entries pages with
    ⟨reader, waits, others⟩ | ⟨reader, inside, waits, others⟩
  · have taken :
        (tlb.onUpper (UpperWalker.takeStageTwo tlb.params tlb.registers result)).Uneventful :=
      onUpper_uneventful (UpperWalker.takeStageTwo_cases _ _ result waits).2
    rw [Outcome.andThen_of_running _ rfl]
    simp only [if_pos reader]
    exact ⟨.upper reader waits others, ⟨taken.running, taken.keeps⟩⟩
  · have busy : tlb.leaf.stageTwoBusy = true := by
      rw [orderly.busy, waits]
      rfl
    have taken :
        (tlb.onLeaf (LeafWalker.takeStageTwo tlb.params id result)).Uneventful :=
      onLeaf_uneventful (LeafWalker.takeStageTwo_uneventful _ id result orderly.linked busy)
    rw [Outcome.andThen_of_running _ rfl]
    simp only [if_neg reader, if_neg (Nat.not_le_of_lt inside)]
    exact ⟨.leaf reader waits others, ⟨taken.running, taken.keeps⟩⟩

inductive Replied (tlb : Tlb) (ticket : Option (Nat × Word)) : Tlb → Prop
  | nothing : Replied tlb ticket tlb
  | delivered (reply : StageTwoReply) (finished : tlb.stageTwo.state = .respond reply)
      {after : Tlb}
      (delivered :
        PageDelivered
          { tlb with stageTwo := (StageTwoWalker.takeReply tlb.params tlb.stageTwo).state }
          ticket reply.id reply.result.tag reply.result after) :
      Replied tlb ticket after

theorem routeReply_cases
    {tlb : Tlb} {ticket : Option (Nat × Word)} (tracked : PagesTracked tlb ticket) :
    Replied tlb ticket tlb.routeReply.state ∧ tlb.routeReply.Uneventful := by
  unfold routeReply
  cases finished : tlb.stageTwo.reply? with
  | none =>
      exact ⟨.nothing, rfl, rfl⟩
  | some reply =>
      have state := StageTwoWalker.state_of_reply finished
      obtain ⟨idle, taken⟩ := StageTwoWalker.takeReply_spec tlb.params finished
      have first : (tlb.onStageTwo (StageTwoWalker.takeReply tlb.params)).Uneventful :=
        onStageTwo_uneventful taken
      let freed : Tlb :=
        { tlb with stageTwo := (StageTwoWalker.takeReply tlb.params tlb.stageTwo).state }
      have none : freed.stageTwo.state.ticket? = none :=
        (StageTwoWalker.observations_of_idle idle).1
      have one : tlb.stageTwo.state.ticket? = some (reply.id, reply.result.tag) := by
        rw [state]
        rfl
      have removed :
          ((reply.id, reply.result.tag) :: freed.pagesInFlight).Perm
            (freed.upperPage?.toList ++ ticket.toList) := by
        refine List.Perm.trans ?_ tracked.pages
        unfold pagesInFlight
        rw [none, one, Option.toList_none, List.append_nil]
        exact (List.perm_append_singleton _ _).symm
      have orderly : freed.leaf.Orderly ticket := tracked.leaf
      obtain ⟨delivered, uneventful⟩ :=
        deliverStageTwo_cases orderly tracked.entries reply.result removed
      refine ⟨.delivered reply state ?_, first.andThen uneventful⟩
      rw [Outcome.andThen_state_of_running _ first.running]
      exact delivered

/-! ## Leaf walks -/

/-- What the upper walker's leaf walk leaves behind, and the prefetches that the leaf
walker drops. -/
inductive Dispatched (tlb : Tlb) : Tlb → List Request → Prop
  | nothing : Dispatched tlb tlb []
  | handed (leaf : LeafRequest) (finished : tlb.upper.dispatch? = some leaf)
      (ready : tlb.leaf.ready = true) :
      Dispatched tlb
        { tlb with
          leaf := (LeafWalker.accept tlb.params leaf tlb.leaf).state
          upper := (UpperWalker.takeDispatch tlb.params tlb.upper).state }
        (LeafWalker.accept tlb.params leaf tlb.leaf).discarded

theorem dispatch_cases (tlb : Tlb) :
    Dispatched tlb tlb.dispatch.state tlb.dispatch.discarded ∧ tlb.dispatch.fault = none := by
  unfold dispatch
  cases finished : tlb.upper.dispatch? with
  | none =>
      exact ⟨.nothing, rfl⟩
  | some leaf =>
      dsimp only
      by_cases ready : tlb.leaf.ready = true
      · rw [if_pos ready]
        have running : (tlb.onLeaf (LeafWalker.accept tlb.params leaf)).fault = none :=
          LeafWalker.accept_running tlb.params leaf ready
        have taken :
            ((tlb.onLeaf (LeafWalker.accept tlb.params leaf)).state.onUpper
              (UpperWalker.takeDispatch tlb.params)).Uneventful :=
          onUpper_uneventful (UpperWalker.takeDispatch_spec tlb.params finished).2
        rw [Outcome.andThen_state_of_running _ running,
          Outcome.andThen_fault_of_running _ running,
          Outcome.andThen_discarded_of_running _ running]
        have kept := taken.keeps
        dsimp only [onLeaf, Outcome.map_state] at kept ⊢
        rw [kept, List.append_nil]
        exact ⟨.handed leaf finished ready, taken.running⟩
      · rw [if_neg ready]
        exact ⟨.nothing, rfl⟩

/-! ## Answers of the cache -/

def popped (tlb : Tlb) (answer : CacheAnswer) : Tlb :=
  { tlb with cache := tlb.cache.withoutAnswer answer }

def released (tlb : Tlb) (answer : CacheAnswer) : Tlb :=
  { tlb.popped answer with lookupsInCache := tlb.lookupsInCache - 1 }

/-- The second-stage walk that a missed guest page needs. -/
def walkOfMiss (answer : CacheAnswer) : StageTwoRequest where
  id := answer.lookup.id
  gvpn := answer.lookup.request.vpn
  source := answer.lookup.request.source
  rootHit := answer.hint.root
  middleHit := answer.hint.middle
  ppn := answer.hint.ppn

inductive ProbeRouted (tlb : Tlb) (ticket : Option (Nat × Word)) (answer : CacheAnswer) :
    Tlb → Prop
  | hit (hit : answer.hit = true) (counters : TlbCounters) {after : Tlb}
      (delivered :
        PageDelivered { tlb.popped answer with counters := counters } ticket
          answer.lookup.id answer.lookup.request.vpn answer.stageTwo after) :
      ProbeRouted tlb ticket answer after
  | queued (missed : answer.hit = false) (guestPages : BoundedQueue StageTwoRequest)
      (elements : guestPages.elements = tlb.guestPages.elements ++ [walkOfMiss answer])
      (capacity : guestPages.capacity = tlb.guestPages.capacity) :
      ProbeRouted tlb ticket answer { tlb.popped answer with guestPages := guestPages }

/-- What the answer to a lookup leaves behind, and the prefetches that the leaf walker
drops. -/
inductive LookupRouted (tlb : Tlb) (answer : CacheAnswer) : Tlb → List Request → Prop
  | hit (hit : answer.hit = true) (counters : TlbCounters) :
      LookupRouted tlb answer
        { tlb.released answer with
          responses := tlb.responses ++ [responseOfHit answer]
          counters := counters }
        []
  | parked (missed : answer.hit = false) (misses : BoundedQueue Lookup)
      (elements :
        misses.elements = tlb.misses.elements ++ [{ request := answer.lookup.request }])
      (capacity : misses.capacity = tlb.misses.capacity) (counters : TlbCounters) :
      LookupRouted tlb answer
        { tlb.released answer with misses := misses, counters := counters } []
  | leaf (missed : answer.hit = false) (middle : answer.hint.middle = true)
      (first : answer.lookup.request.mode ≠ .stageTwo) (ready : tlb.leaf.ready = true)
      (counters : TlbCounters) :
      LookupRouted tlb answer
        { tlb.released answer with
          leaf :=
            (LeafWalker.accept tlb.params ⟨answer.lookup.request, answer.hint.ppn⟩
              tlb.leaf).state
          counters := counters }
        (LeafWalker.accept tlb.params ⟨answer.lookup.request, answer.hint.ppn⟩
          tlb.leaf).discarded
  | upper (missed : answer.hit = false)
      (walks : answer.hint.middle = false ∨ answer.lookup.request.mode = .stageTwo)
      (ready : tlb.upper.ready = true) (counters : TlbCounters) :
      LookupRouted tlb answer
        { tlb.released answer with
          upper :=
            (UpperWalker.accept tlb.params tlb.registers
              ⟨answer.lookup.request, answer.hint.root, answer.hint.ppn⟩ tlb.upper).state
          counters := counters }
        []

/-- What the cache's answer leaves behind, and the prefetches that the leaf walker
drops. -/
inductive AnswerRouted (tlb : Tlb) (ticket : Option (Nat × Word)) : Tlb → List Request → Prop
  | nothing : AnswerRouted tlb ticket tlb []
  | probe (answer : CacheAnswer) (found : tlb.cache.answer = some answer)
      (probe : answer.lookup.probe = true) {after : Tlb}
      (routed : ProbeRouted tlb ticket answer after) : AnswerRouted tlb ticket after []
  | lookup (answer : CacheAnswer) (found : tlb.cache.answer = some answer)
      (lookup : answer.lookup.probe = false) {after : Tlb} {dropped : List Request}
      (routed : LookupRouted tlb answer after dropped) :
      AnswerRouted tlb ticket after dropped

theorem lookups_of_answer
    {tlb : Tlb} {answer : CacheAnswer} (found : tlb.cache.answer = some answer) :
    tlb.cache.lookups = answer.lookup :: (tlb.popped answer).cache.lookups := by
  obtain ⟨lookups, same, _⟩ := Cache.pop_spec tlb.params found
  rw [same] at lookups
  exact lookups

theorem pagesInFlight_of_probe
    {tlb : Tlb} {answer : CacheAnswer} (found : tlb.cache.answer = some answer)
    (probe : answer.lookup.probe = true) :
    tlb.pagesInFlight =
      (answer.lookup.id, answer.lookup.request.vpn) :: (tlb.popped answer).pagesInFlight := by
  unfold pagesInFlight
  rw [lookups_of_answer found, probedPages_cons_of_probe probe]
  rfl

private theorem routeProbe_cases
    {tlb : Tlb} {ticket : Option (Nat × Word)} (tracked : PagesTracked tlb ticket)
    (capacity : tlb.guestPages.capacity = guestPageCapacity) {answer : CacheAnswer}
    (found : tlb.cache.answer = some answer) (probe : answer.lookup.probe = true) :
    ProbeRouted tlb ticket answer ((tlb.popped answer).routeProbe answer).state ∧
      ((tlb.popped answer).routeProbe answer).Uneventful := by
  have removed := tracked.pages
  rw [pagesInFlight_of_probe found probe] at removed
  unfold routeProbe
  by_cases hit : answer.hit = true
  · rw [if_pos hit]
    let freed : Tlb :=
      (tlb.popped answer).count fun counters =>
        { counters with stageTwoCacheHits := counters.stageTwoCacheHits + 1 }
    have orderly : freed.leaf.Orderly ticket := tracked.leaf
    have same : freed.pagesInFlight = (tlb.popped answer).pagesInFlight := rfl
    rw [← same] at removed
    obtain ⟨delivered, uneventful⟩ :=
      deliverStageTwo_cases orderly tracked.entries answer.stageTwo removed
    exact ⟨.hit hit _ delivered, uneventful⟩
  · rw [if_neg hit]
    have bound := removed.length_eq
    have few (option : Option (Nat × Word)) : option.toList.length ≤ 1 := by
      cases option <;> simp
    have first := few tlb.upperPage?
    have second := few ticket
    have queued : tlb.queuedPages.length = tlb.guestPages.elements.length := List.length_map _
    have here : (tlb.popped answer).queuedPages = tlb.queuedPages := rfl
    simp only [pagesInFlight, here, List.length_cons, List.length_append] at bound
    have room : tlb.guestPages.elements.length < tlb.guestPages.capacity := by
      rw [capacity]
      unfold guestPageCapacity
      omega
    obtain ⟨guestPages, sent⟩ := send_of_room room (walkOfMiss answer)
    obtain ⟨elements, unchanged⟩ := elements_of_send sent
    have sending : (tlb.popped answer).guestPages.send? (walkOfMiss answer) = some guestPages :=
      sent
    unfold walkOfMiss at sending
    simp only [sending]
    exact ⟨.queued (Bool.eq_false_iff.2 hit) guestPages elements unchanged, rfl, rfl⟩

private theorem park_cases
    {tlb : Tlb} (room : tlb.misses.elements.length < tlb.misses.capacity) (request : Request) :
    ∃ misses counters,
      misses.elements = tlb.misses.elements ++ [{ request := request }] ∧
        misses.capacity = tlb.misses.capacity ∧
        (tlb.park request).state = { tlb with misses := misses, counters := counters } ∧
        (tlb.park request).Uneventful := by
  obtain ⟨misses, sent⟩ := send_of_room room { request := request }
  obtain ⟨elements, capacity⟩ := elements_of_send sent
  unfold park
  simp only [sent]
  exact ⟨misses, _, elements, capacity, rfl, rfl, rfl⟩

private theorem routeLookup_cases
    {tlb : Tlb} (answer : CacheAnswer)
    (room : tlb.misses.elements.length < tlb.misses.capacity) :
    LookupRouted tlb answer ((tlb.released answer).routeLookup answer).state
        ((tlb.released answer).routeLookup answer).discarded ∧
      ((tlb.released answer).routeLookup answer).fault = none := by
  have space : (tlb.released answer).misses.elements.length <
      (tlb.released answer).misses.capacity := room
  obtain ⟨misses, counters, elements, capacity, state, uneventful⟩ :=
    park_cases space answer.lookup.request
  have parked (missed : answer.hit = false) :
      LookupRouted tlb answer ((tlb.released answer).park answer.lookup.request).state
          ((tlb.released answer).park answer.lookup.request).discarded ∧
        ((tlb.released answer).park answer.lookup.request).fault = none := by
    have added :
        misses.elements = tlb.misses.elements ++ [{ request := answer.lookup.request }] :=
      elements
    have unchanged : misses.capacity = tlb.misses.capacity := capacity
    rw [state, uneventful.keeps]
    exact ⟨.parked missed misses added unchanged counters, uneventful.running⟩
  unfold routeLookup
  by_cases hit : answer.hit = true
  · rw [if_pos hit]
    exact ⟨.hit hit _, rfl⟩
  · have missed : answer.hit = false := Bool.eq_false_iff.2 hit
    rw [if_neg hit]
    by_cases bypassed : answer.bypassed = true
    · rw [if_pos bypassed]
      exact parked missed
    · rw [if_neg bypassed]
      by_cases known : (answer.hint.middle && answer.lookup.request.mode != .stageTwo) = true
      · rw [if_pos known]
        rw [Bool.and_eq_true, bne_iff_ne] at known
        by_cases ready : tlb.leaf.ready = true
        · have free : (tlb.released answer).leaf.ready = true := ready
          rw [if_pos free]
          exact ⟨.leaf missed known.1 known.2 ready _,
            LeafWalker.accept_running tlb.params _ ready⟩
        · have full : ¬ (tlb.released answer).leaf.ready = true := ready
          rw [if_neg full]
          exact parked missed
      · rw [if_neg known]
        by_cases ready : tlb.upper.ready = true
        · have free : (tlb.released answer).upper.ready = true := ready
          have walks : answer.hint.middle = false ∨ answer.lookup.request.mode = .stageTwo := by
            cases middle : answer.hint.middle with
            | false => exact Or.inl rfl
            | true =>
                right
                simpa [middle] using known
          let request : UpperRequest :=
            ⟨answer.lookup.request, answer.hint.root, answer.hint.ppn⟩
          have accepted :
              (UpperWalker.accept tlb.params tlb.registers request tlb.upper).Uneventful :=
            (UpperWalker.accept_spec tlb.params tlb.registers request ready).1
          rw [if_pos free]
          refine ⟨?_, accepted.running⟩
          change LookupRouted tlb answer _
            (UpperWalker.accept tlb.params tlb.registers request tlb.upper).discarded
          rw [accepted.keeps]
          exact .upper missed walks ready _
        · have busy : ¬ (tlb.released answer).upper.ready = true := ready
          rw [if_neg busy]
          exact parked missed

/-- A lookup that comes out of the cache was counted, and finds room to be parked. -/
theorem QueuesTracked.room_of_answer
    {tlb : Tlb} (queues : QueuesTracked tlb) {answer : CacheAnswer}
    (found : tlb.cache.answer = some answer) (lookup : answer.lookup.probe = false) :
    tlb.lookupsInCache ≠ 0 ∧ tlb.misses.elements.length < tlb.misses.capacity := by
  have counted := queues.counted
  rw [lookups_of_answer found, unprobed_cons_of_lookup lookup, List.length_cons] at counted
  have bound := queues.room
  unfold reserved BoundedQueue.size at bound
  rw [← queues.missCapacity, counted] at bound
  omega

private theorem routeAnswer_of_answer
    {tlb : Tlb} {answer : CacheAnswer} (found : tlb.cache.answer = some answer) :
    tlb.routeAnswer =
      if answer.lookup.probe then (tlb.popped answer).routeProbe answer
      else if tlb.lookupsInCache = 0 then
        (tlb.popped answer).misuse (.untrackedLookup answer.lookup.request)
      else (tlb.released answer).routeLookup answer := by
  simp only [routeAnswer, onCache, Cache.pop, found, Outcome.map, Outcome.andThen,
    List.nil_append]
  rfl

theorem routeAnswer_of_probe
    {tlb : Tlb} {answer : CacheAnswer} (found : tlb.cache.answer = some answer)
    (probe : answer.lookup.probe = true) :
    tlb.routeAnswer = (tlb.popped answer).routeProbe answer := by
  rw [routeAnswer_of_answer found, if_pos probe]

/-- An answer to a lookup is routed wherever the queues have room. -/
theorem routeAnswer_of_lookup
    {tlb : Tlb} (queues : QueuesTracked tlb) {answer : CacheAnswer}
    (found : tlb.cache.answer = some answer) (lookup : answer.lookup.probe = false) :
    LookupRouted tlb answer tlb.routeAnswer.state tlb.routeAnswer.discarded ∧
      tlb.routeAnswer.fault = none := by
  obtain ⟨counted, room⟩ := queues.room_of_answer found lookup
  have outside : ¬ answer.lookup.probe = true := Bool.eq_false_iff.1 lookup
  rw [routeAnswer_of_answer found, if_neg outside, if_neg counted]
  exact routeLookup_cases answer room

theorem routeAnswer_cases
    {tlb : Tlb} {ticket : Option (Nat × Word)} (tracked : PagesTracked tlb ticket)
    (queues : QueuesTracked tlb) :
    AnswerRouted tlb ticket tlb.routeAnswer.state tlb.routeAnswer.discarded ∧
      tlb.routeAnswer.fault = none := by
  cases found : tlb.cache.answer with
  | none =>
      have same : tlb.routeAnswer = { state := tlb } := by
        unfold routeAnswer
        rw [found]
      rw [same]
      exact ⟨.nothing, rfl⟩
  | some answer =>
      cases probe : answer.lookup.probe with
      | true =>
          obtain ⟨routed, uneventful⟩ :=
            routeProbe_cases tracked queues.pageCapacity found probe
          rw [routeAnswer_of_probe found probe, uneventful.keeps]
          exact ⟨.probe answer found probe routed, uneventful.running⟩
      | false =>
          obtain ⟨routed, running⟩ := routeAnswer_of_lookup queues found probe
          exact ⟨.lookup answer found probe routed, running⟩

/-! ## Finished walks -/

inductive UpperCollected (tlb : Tlb) : Tlb → Prop
  | nothing : UpperCollected tlb tlb
  | answered (response : Response) (finished : tlb.upper.response? = some response)
      (counters : TlbCounters) :
      UpperCollected tlb
        { tlb with
          upper := (UpperWalker.takeResponse tlb.params tlb.upper).state
          responses := tlb.responses ++ [response]
          counters := counters }

theorem collectUpper_cases (tlb : Tlb) :
    UpperCollected tlb tlb.collectUpper.state ∧ tlb.collectUpper.Uneventful := by
  unfold collectUpper
  cases finished : tlb.upper.response? with
  | none =>
      exact ⟨.nothing, rfl, rfl⟩
  | some response =>
      have taken : (tlb.onUpper (UpperWalker.takeResponse tlb.params)).Uneventful :=
        onUpper_uneventful (UpperWalker.takeResponse_spec tlb.params finished).2
      dsimp only
      rw [Outcome.andThen_state_of_running _ taken.running]
      exact ⟨.answered response finished _, taken.andThen ⟨rfl, rfl⟩⟩

inductive LeafCollected (tlb : Tlb) : Tlb → Prop
  | nothing : LeafCollected tlb tlb
  | answered (index : Nat) (found : tlb.leaf.finishedIndex? = some index)
      (counters : TlbCounters) :
      LeafCollected tlb
        { tlb with
          leaf := (LeafWalker.takeFinished tlb.params tlb.leaf).state
          responses :=
            tlb.responses ++ [(tlb.leaf.entry index).response tlb.params tlb.registers]
          counters := counters }

theorem collectLeaf_cases (tlb : Tlb) :
    LeafCollected tlb tlb.collectLeaf.state ∧ tlb.collectLeaf.Uneventful := by
  unfold collectLeaf
  cases found : tlb.leaf.finishedIndex? with
  | none =>
      exact ⟨.nothing, rfl, rfl⟩
  | some index =>
      have taken : (tlb.onLeaf (LeafWalker.takeFinished tlb.params)).Uneventful :=
        onLeaf_uneventful (LeafWalker.takeFinished_spec tlb.params found).2
      dsimp only
      rw [Outcome.andThen_state_of_running _ taken.running]
      exact ⟨.answered index found _, taken.andThen ⟨rfl, rfl⟩⟩

/-! ## Steps of the walkers -/

theorem tickWalkers_spec (tlb : Tlb) :
    tlb.tickWalkers.state =
        { tlb with
          upper :=
            (UpperWalker.tick tlb.params tlb.registers tlb.protection tlb.upper).state
          leaf := (LeafWalker.tick tlb.params tlb.protection tlb.leaf).state
          stageTwo :=
            (StageTwoWalker.tick tlb.params tlb.registers tlb.protection tlb.stageTwo).state } ∧
      tlb.tickWalkers.Uneventful := by
  have upper :
      (tlb.onUpper (UpperWalker.tick tlb.params tlb.registers tlb.protection)).Uneventful :=
    onUpper_uneventful
      (UpperWalker.tick_cases tlb.params tlb.registers tlb.protection tlb.upper).2
  have leaf (tlb : Tlb) :
      (tlb.onLeaf (LeafWalker.tick tlb.params tlb.protection)).Uneventful :=
    onLeaf_uneventful (LeafWalker.tick_uneventful tlb.params tlb.protection tlb.leaf)
  have stageTwo (tlb : Tlb) :
      (tlb.onStageTwo
        (StageTwoWalker.tick tlb.params tlb.registers tlb.protection)).Uneventful :=
    onStageTwo_uneventful
      (StageTwoWalker.tick_cases tlb.params tlb.registers tlb.protection tlb.stageTwo).2
  unfold tickWalkers
  refine ⟨?_, upper.andThen ((leaf _).andThen (stageTwo _))⟩
  rw [Outcome.andThen_state_of_running _ upper.running,
    Outcome.andThen_state_of_running _ (leaf _).running]
  rfl

/-! ## Arbitration -/

/-- A walker was told that the memory took its read. -/
inductive ReadFired (tlb : Tlb) (request : MemoryRequest) : Tlb → Prop
  | upper (wanted : tlb.upper.memoryRequest? tlb.params = some request) :
      ReadFired tlb request
        { tlb with upper := (UpperWalker.fireMemory tlb.params tlb.upper).state }
  | leaf (wanted : tlb.leaf.memoryRequest? = some request) :
      ReadFired tlb request
        { tlb with leaf := (LeafWalker.fireMemory tlb.params tlb.leaf).state }
  | stageTwo (wanted : tlb.stageTwo.memoryRequest? tlb.params = some request) :
      ReadFired tlb request
        { tlb with stageTwo := (StageTwoWalker.fireMemory tlb.params tlb.stageTwo).state }

private theorem fireRead_cases
    {tlb : Tlb} {request : MemoryRequest} (wanted : tlb.nextRead? = some request) :
    ReadFired tlb request tlb.fireRead.state ∧ tlb.fireRead.Uneventful := by
  unfold nextRead? at wanted
  unfold fireRead
  cases upper : tlb.upper.memoryRequest? tlb.params with
  | some found =>
      rw [upper] at wanted
      cases wanted
      obtain ⟨_, _, _, _, uneventful⟩ := UpperWalker.fireMemory_spec tlb.params upper
      exact ⟨.upper upper, onUpper_uneventful uneventful⟩
  | none =>
      cases leaf : tlb.leaf.memoryRequest? with
      | some found =>
          rw [upper, leaf] at wanted
          cases wanted
          exact ⟨.leaf leaf, onLeaf_uneventful (LeafWalker.fireMemory_spec tlb.params leaf).2.2⟩
      | none =>
          rw [upper, leaf] at wanted
          have found : tlb.stageTwo.memoryRequest? tlb.params = some request := wanted
          obtain ⟨_, _, _, _, uneventful⟩ := StageTwoWalker.fireMemory_spec tlb.params found
          exact ⟨.stageTwo found, onStageTwo_uneventful uneventful⟩

inductive ReadSent (tlb : Tlb) : Tlb → Prop
  | nothing : ReadSent tlb tlb
  | sent (request : MemoryRequest) {fired : Tlb} (counters : TlbCounters)
      (told : ReadFired { tlb with memory := tlb.memory.accept request } request fired) :
      ReadSent tlb
        { fired with
          reads := fired.reads.modify request.id (· + 1)
          counters := counters }

theorem sendRead_cases (tlb : Tlb) :
    ReadSent tlb tlb.sendRead.state ∧ tlb.sendRead.Uneventful := by
  unfold sendRead
  cases wanted : tlb.nextRead? with
  | none =>
      exact ⟨.nothing, rfl, rfl⟩
  | some request =>
      dsimp only
      unfold Memory.send?
      by_cases accepted : tlb.memory.accepted = true
      · rw [if_pos accepted]
        exact ⟨.nothing, rfl, rfl⟩
      · rw [if_neg accepted]
        have next : nextRead? { tlb with memory := tlb.memory.accept request } = some request :=
          wanted
        obtain ⟨told, fired⟩ := fireRead_cases next
        dsimp only
        refine ⟨?_, Outcome.Uneventful.andThen ⟨rfl, rfl⟩ (fired.andThen ⟨rfl, rfl⟩)⟩
        rw [Outcome.andThen_state_of_running _ rfl, Outcome.map_state,
          Outcome.andThen_state_of_running _ fired.running]
        exact .sent request _ told

inductive PageStarted (tlb : Tlb) : Tlb → Prop
  | nothing : PageStarted tlb tlb
  | started (request : StageTwoRequest)
      (oldest :
        tlb.guestPages.elements = request :: tlb.guestPages.tail.elements)
      (ready : tlb.stageTwo.ready = true) :
      PageStarted tlb
        { tlb with
          stageTwo :=
            (StageTwoWalker.accept tlb.params tlb.registers request tlb.stageTwo).state
          guestPages := tlb.guestPages.tail }

theorem startGuestPage_cases (tlb : Tlb) :
    PageStarted tlb tlb.startGuestPage.state ∧ tlb.startGuestPage.Uneventful := by
  unfold startGuestPage
  cases oldest : tlb.guestPages.peek? with
  | none =>
      exact ⟨.nothing, rfl, rfl⟩
  | some request =>
      dsimp only
      by_cases ready : tlb.stageTwo.ready = true
      · rw [if_pos ready]
        have accepted :=
          (StageTwoWalker.accept_cases tlb.params tlb.registers request ready).1
        exact ⟨.started request (elements_of_peek oldest) ready,
          (onStageTwo_uneventful accepted).map _⟩
      · rw [if_neg ready]
        exact ⟨.nothing, rfl, rfl⟩

/-- The TLB after the cache has accepted a lookup. -/
def fed (tlb : Tlb) (lookup : Lookup) : Tlb :=
  { tlb with cache := { tlb.cache with waiting := some { lookup := lookup } } }

/-- What the lookup that is offered to the cache leaves behind. -/
inductive CacheFed (tlb : Tlb) : Tlb → Prop
  | nothing (counters : CacheCounters) :
      CacheFed tlb { tlb with cache := { tlb.cache with counters := counters } }
  | upper (request : StageTwoRequest)
      (wanted : tlb.upper.stageTwoRequest? tlb.params = some request)
      (free : tlb.cache.waiting = none) :
      CacheFed tlb
        { tlb.fed (probeOf request) with
          upper := (UpperWalker.fireStageTwo tlb.params tlb.upper).state }
  | leaf (request : StageTwoRequest) (wants : tlb.leaf.wantsStageTwo = true)
      (wanted : tlb.leaf.stageTwoRequest? = some request) (free : tlb.cache.waiting = none) :
      CacheFed tlb
        { tlb.fed (probeOf request) with
          leaf := (LeafWalker.fireStageTwo tlb.params tlb.leaf).state }
  | miss (lookup : Lookup)
      (oldest : tlb.misses.elements = lookup :: tlb.misses.tail.elements)
      (free : tlb.cache.waiting = none) :
      CacheFed tlb
        { tlb.fed lookup with
          misses := tlb.misses.tail
          lookupsInCache := tlb.lookupsInCache + 1 }
  | input (request : Request)
      (oldest : tlb.inputs.elements = request :: tlb.inputs.tail.elements)
      (free : tlb.cache.waiting = none) :
      CacheFed tlb
        { tlb.fed { request := request, first := true } with
          inputs := tlb.inputs.tail
          lookupsInCache := tlb.lookupsInCache + 1 }

/-- A lookup that is offered goes on if the cache accepted it. -/
private theorem offer_cases
    {lookup : Lookup} {accepted : Tlb → Outcome Tlb} {tlb : Tlb}
    (taken : (accepted (tlb.fed lookup)).Uneventful)
    (reached : tlb.cache.waiting = none → CacheFed tlb (accepted (tlb.fed lookup)).state) :
    CacheFed tlb (offer lookup accepted tlb).state ∧ (offer lookup accepted tlb).Uneventful := by
  let sent := (Cache.send tlb.params lookup tlb.cache).2.map fun cache =>
    { tlb with cache := cache }
  have opened :
      offer lookup accepted tlb =
        if (Cache.send tlb.params lookup tlb.cache).1 then sent.andThen accepted else sent :=
    rfl
  obtain ⟨uneventful, ⟨yes, free, state⟩ | ⟨no, counters, state⟩⟩ :=
    Cache.send_cases tlb.params lookup tlb.cache
  · have running : sent.fault = none := uneventful.running
    have fed : sent.state = tlb.fed lookup := by
      dsimp only [sent, Outcome.map_state]
      rw [state]
      rfl
    rw [opened, yes, if_pos rfl]
    constructor
    · rw [Outcome.andThen_state_of_running _ running, fed]
      exact reached free
    · refine Outcome.Uneventful.andThen (uneventful.map _) ?_
      rw [fed]
      exact taken
  · have same :
        sent.state = { tlb with cache := { tlb.cache with counters := counters } } := by
      dsimp only [sent, Outcome.map_state]
      rw [state]
    rw [opened, no, if_neg Bool.false_ne_true, same]
    exact ⟨.nothing counters, uneventful.map _⟩

theorem feedCache_cases (tlb : Tlb) :
    CacheFed tlb tlb.feedCache.state ∧ tlb.feedCache.Uneventful := by
  unfold feedCache
  cases upper : tlb.upper.stageTwoRequest? tlb.params with
  | some request =>
      refine offer_cases ?_ fun free => .upper request upper free
      exact onUpper_uneventful (UpperWalker.fireStageTwo_spec tlb.params upper).2.2.2.1
  | none =>
      cases leaf : tlb.leafPage? with
      | some request =>
          unfold leafPage? at leaf
          split at leaf
          · rename_i wants
            refine offer_cases ?_ fun free => .leaf request wants leaf free
            exact onLeaf_uneventful
              (LeafWalker.fireStageTwo_cases tlb.params wants leaf).2.2.2.1
          · cases leaf
      | none =>
          cases miss : tlb.misses.peek? with
          | some lookup =>
              exact offer_cases ⟨rfl, rfl⟩ fun free =>
                .miss lookup (elements_of_peek miss) free
          | none =>
              cases input : tlb.inputs.peek? with
              | some request =>
                  exact offer_cases ⟨rfl, rfl⟩ fun free =>
                    .input request (elements_of_peek input) free
              | none =>
                  exact ⟨.nothing tlb.cache.counters, rfl, rfl⟩

end PageWalk.Tlb
