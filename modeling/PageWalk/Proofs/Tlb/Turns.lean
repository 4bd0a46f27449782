import PageWalk.Proofs.Cache.Order
import PageWalk.Proofs.Tlb.Queues

/-!
# Runs with any memory

A TLB asks its memory for blocks, but whether the memory takes a read, when it answers
and what it answers is up to the memory. Here the memory may turn into any other one
between two commands. What a command or a phase of a step can leave behind is listed
without relying on anything that the memory says; what was not asked for stops the TLB,
and only the two faults that would mean that it has lost count of a lookup are kept apart.
-/

namespace PageWalk

/-- What can happen to a TLB: a command, or anything at all to its memory. -/
inductive Turn
  | command (command : Command)
  | memory (memory : Memory)

/-- A lookup has to be parked and finds no room, or it comes out of the cache and was not
counted. -/
def Fault.miscounts : Fault → Bool
  | .misuse _ (.missQueueOverflow _) | .misuse _ (.untrackedLookup _) => true
  | _ => false

/-- The outcome does not stop for a lookup that was miscounted. -/
abbrev Outcome.Counts {State : Type} (outcome : Outcome State) : Prop :=
  outcome.FaultsIn (·.miscounts = false)

/-! ## Hand-overs -/

theorem WalkerKind.takeBlock_counts
    {Walker State Walk : Type} (kind : WalkerKind Walker State Walk) (params : Params)
    (registers : Registers) (block : Block) (walker : Walker) :
    (kind.takeBlock params registers block walker).Counts := by
  unfold takeBlock
  split
  · rename_i walk address _
    exact Outcome.faultsIn_of_running
      (kind.follow_uneventful params registers block walk address walker).running
  · exact Outcome.faultsIn_stop walker rfl

theorem UpperWalker.takeStageTwo_counts
    (params : Params) (registers : Registers) (result : StageTwoResult)
    (walker : UpperWalker) :
    (takeStageTwo params registers result walker).Counts := by
  cases waits : walker.awaitedPage? with
  | some page =>
      exact Outcome.faultsIn_of_running
        (takeStageTwo_cases params registers result waits).2.running
  | none =>
      rw [takeStageTwo_of_unawaited params registers result waits]
      exact Outcome.faultsIn_stop walker rfl

theorem LeafWalker.takeBlock_counts
    (params : Params) (id : Nat) (block : Block) (walker : LeafWalker) :
    (takeBlock params id block walker).Counts := by
  by_cases waits : (walker.entry id).state = .memoryWait id
  · exact Outcome.faultsIn_of_running (takeBlock_spec params block waits).2.2.running
  · rcases takeBlock_of_unawaited params block waits with same | same
    all_goals
      rw [same]
      exact Outcome.faultsIn_stop walker rfl

theorem Cache.refill_counts
    (params : Params) (registers : Registers) (refill : Refill) (cache : Cache) :
    (Cache.refill params registers refill cache).Counts := by
  by_cases level : refill.level ≤ leafLevel
  · exact Outcome.faultsIn_of_running (refill_spec params registers cache level).2.running
  · unfold Cache.refill
    split
    · exact Outcome.faultsIn_of_running rfl
    · dsimp only
      split
      · exact Outcome.faultsIn_of_running rfl
      · refine Outcome.FaultsIn.andThen ?_ fun _ => Outcome.faultsIn_of_running rfl
        unfold store
        rw [if_neg fun upper => level (Nat.le_of_lt upper),
          if_neg fun last => level (Nat.le_of_eq last)]
        exact Outcome.faultsIn_stop _ rfl

theorem Cache.corrupt_counts
    (params : Params) (level : Nat) (set way : UInt32) (cache : Cache) :
    (Cache.corrupt params level set way cache).Counts := by
  unfold Cache.corrupt
  split
  · split
    · exact Outcome.faultsIn_stop _ rfl
    · exact Outcome.faultsIn_of_running rfl
  · split
    · split
      · exact Outcome.faultsIn_stop _ rfl
      · exact Outcome.faultsIn_of_running rfl
    · exact Outcome.faultsIn_stop _ rfl

/-- What is kept while a translation goes from entry to entry holds after its delivery,
whether it was due or not. -/
theorem LeafWalker.takeStageTwo_keeps
    (params : Params) (id : Nat) (result : StageTwoResult) {walker : LeafWalker}
    (holds : LeafWalker → Prop)
    (step : ∀ {index current after entry}, holds current →
      Delivered params id result current index entry → Replaced current after index entry →
        holds after)
    (start : ∀ busy, holds { walker with stageTwoBusy := busy }) :
    holds (takeStageTwo params id result walker).state ∧
      (takeStageTwo params id result walker).Counts := by
  cases busy : walker.stageTwoBusy with
  | false =>
      have here := start false
      rw [← busy] at here
      unfold takeStageTwo
      rw [busy]
      exact ⟨here, Outcome.faultsIn_stop walker rfl⟩
  | true =>
      let reached (current : LeafWalker) : Prop :=
        current.entries.size = walker.entries.size ∧ holds current
      have next (index : Nat) (member : index ∈ walker.indices) (current : LeafWalker)
          (before : reached current) :
          reached (deliverStageTwo params id result index current).state ∧
            (deliverStageTwo params id result index current).Counts := by
        have inside : index < current.entries.size := by
          rw [before.1]
          exact List.mem_range.1 member
        obtain ⟨uneventful, kept⟩ := deliverStageTwo_cases params id result inside
        refine ⟨?_, Outcome.faultsIn_of_running uneventful.running⟩
        rcases kept with ⟨same, _⟩ | ⟨entry, delivered, replaced⟩
        · rw [same]
          exact before
        · exact ⟨replaced.size.trans before.1, step before.2 delivered replaced⟩
      have begun : reached { walker with stageTwoBusy := false } := ⟨rfl, start false⟩
      obtain ⟨last, counts⟩ := Outcome.forEach_keeps next begun
      rw [takeStageTwo_of_busy params id result busy]
      exact ⟨last.2, counts⟩

theorem LeafWalker.takeStageTwo_counts
    (params : Params) (id : Nat) (result : StageTwoResult) (walker : LeafWalker) :
    (takeStageTwo params id result walker).Counts :=
  (takeStageTwo_keeps params id result (fun _ => True) (fun _ _ _ => trivial)
    fun _ => trivial).2

namespace Tlb

/-! ## Turns and points of a run -/

def turn (turn : Turn) (tlb : Tlb) : Outcome Tlb :=
  match turn with
  | .command command => tlb.perform command
  | .memory memory => { state := { tlb with memory := memory } }

/-- The TLB after some turns and the first phases of one more step. -/
def during (turns : List Turn) (count : Nat) (tlb : Tlb) : Outcome Tlb :=
  (Outcome.forEach turn turns tlb).andThen
    (Outcome.forEach (fun phase tlb => phase tlb) (phases.take count))

/-- What a turn other than a step can leave behind. -/
inductive Acted (tlb : Tlb) : Tlb → Prop
  /-- A lookup was accepted. -/
  | sent (request : Request) (inputs : BoundedQueue Request) (ready : tlb.ready = true)
      (queued : tlb.inputs.send? request = some inputs) (counters : TlbCounters) :
      Acted tlb { tlb with inputs := inputs, counters := counters }
  | flushed (registers : Registers) (cache : Cache) :
      Acted tlb (Tlb.flush { tlb with registers := registers, cache := cache })
  /-- No unit of the walk was touched. -/
  | aside (registers : Registers) (memory : Memory) (responses : List Response)
      (cache : Cache) (lookups : cache.lookups = tlb.cache.lookups) :
      Acted tlb
        { tlb with
          registers := registers
          memory := memory
          responses := responses
          cache := cache }

private theorem acted_refl (tlb : Tlb) : Acted tlb tlb :=
  .aside tlb.registers tlb.memory tlb.responses tlb.cache rfl

private theorem acted_write (address data : Word) (tlb : Tlb) :
    Acted tlb (Tlb.write address data tlb).state ∧ (Tlb.write address data tlb).Counts := by
  unfold Tlb.write Memory.writeWord
  split
  · rename_i memory written
    exact ⟨.aside tlb.registers memory tlb.responses tlb.cache rfl,
      Outcome.faultsIn_of_running rfl⟩
  · rename_i fault refused
    refine ⟨acted_refl tlb, Outcome.faultsIn_stop _ ?_⟩
    split at refused
    · cases refused
      rfl
    · cases refused

theorem turn_cases (change : Turn) (tlb : Tlb) :
    change = .command .tick ∨
      Acted tlb (tlb.turn change).state ∧ (tlb.turn change).Counts := by
  cases change with
  | memory memory =>
      exact .inr ⟨.aside tlb.registers memory tlb.responses tlb.cache rfl,
        Outcome.faultsIn_of_running rfl⟩
  | command command =>
      cases command with
      | tick => exact .inl rfl
      | send request =>
          right
          change Acted tlb ((tlb.send? request).getD { state := tlb }).state ∧
            ((tlb.send? request).getD { state := tlb }).Counts
          unfold Tlb.send?
          split
          · rename_i ready
            cases queued : tlb.inputs.send? request with
            | none => exact ⟨acted_refl tlb, Outcome.faultsIn_of_running rfl⟩
            | some inputs =>
                exact ⟨.sent request inputs ready queued _, Outcome.faultsIn_of_running rfl⟩
          · exact ⟨acted_refl tlb, Outcome.faultsIn_of_running rfl⟩
      | receive =>
          right
          change Acted tlb (tlb.perform .receive).state ∧ (tlb.perform .receive).Counts
          rw [perform_receive]
          exact ⟨.aside tlb.registers tlb.memory _ tlb.cache rfl, Outcome.faultsIn_of_running rfl⟩
      | fence fence =>
          exact .inr ⟨.flushed tlb.registers _, Outcome.faultsIn_of_running rfl⟩
      | install registers =>
          right
          change Acted tlb (Tlb.install registers tlb).state ∧
            (Tlb.install registers tlb).Counts
          unfold Tlb.install
          dsimp only
          split
          · exact ⟨.flushed _ tlb.cache, Outcome.faultsIn_of_running rfl⟩
          · exact ⟨.aside _ tlb.memory tlb.responses tlb.cache rfl,
              Outcome.faultsIn_of_running rfl⟩
      | write address data => exact .inr (acted_write address data tlb)
      | corrupt level set way =>
          have same := Cache.corrupt_stages tlb.params level set way tlb.cache
          exact .inr ⟨.aside tlb.registers tlb.memory tlb.responses _ same.lookups,
            (Cache.corrupt_counts tlb.params level set way tlb.cache).map _⟩

/-! ## Blocks from memory -/

/-- The cache was offered a refill, or it was left alone. -/
def Filled (tlb : Tlb) (cache : Cache) : Prop :=
  cache = tlb.cache ∨
    ∃ refill, cache = (Cache.refill tlb.params tlb.registers refill tlb.cache).state

theorem Filled.lookups {tlb : Tlb} {cache : Cache} (filled : Filled tlb cache) :
    cache.lookups = tlb.cache.lookups := by
  obtain rfl | ⟨refill, rfl⟩ := filled
  · rfl
  · exact Cache.lookups_refill tlb.params tlb.registers refill tlb.cache

/-- What a reply of the memory can leave of the walkers and of the cache. -/
inductive BlockTaken (tlb : Tlb) : Tlb → Prop
  | nothing : BlockTaken tlb tlb
  | upper (block : Block) {cache : Cache} (filled : Filled tlb cache) :
      BlockTaken tlb
        { tlb with
          upper := (UpperWalker.takeBlock tlb.params tlb.registers block tlb.upper).state
          cache := cache }
  | stageTwo (block : Block) {cache : Cache} (filled : Filled tlb cache) :
      BlockTaken tlb
        { tlb with
          stageTwo :=
            (StageTwoWalker.takeBlock tlb.params tlb.registers block tlb.stageTwo).state
          cache := cache }
  | leaf (id : Nat) (block : Block) {cache : Cache} (filled : Filled tlb cache) :
      BlockTaken tlb
        { tlb with
          leaf := (LeafWalker.takeBlock tlb.params id block tlb.leaf).state
          cache := cache }

/-- The cache is offered a refill once a walker has taken its block. -/
private theorem refillCache_taken
    {taken : Tlb → Prop} {outcome : Outcome Tlb} (counts : outcome.Counts)
    (each : ∀ cache, Filled outcome.state cache → taken { outcome.state with cache := cache })
    (refill : Option Refill) :
    taken (outcome.andThen (refillCache refill)).state ∧
      (outcome.andThen (refillCache refill)).Counts := by
  refine ⟨Outcome.andThen_state_induction (each _ (.inl rfl)) fun _ _ => ?_,
    counts.andThen fun _ => ?_⟩
  · cases refill with
    | none => exact each _ (.inl rfl)
    | some refill => exact each _ (.inr ⟨refill, rfl⟩)
  · cases refill with
    | none => exact Outcome.faultsIn_of_running rfl
    | some refill => exact (Cache.refill_counts _ _ refill _).map _

private theorem deliverBlock_taken (id : Nat) (block : Block) (tlb : Tlb) :
    BlockTaken tlb (tlb.deliverBlock id block).state ∧ (tlb.deliverBlock id block).Counts := by
  unfold deliverBlock
  split
  · have counts :=
      UpperWalker.kind.takeBlock_counts tlb.params tlb.registers block tlb.upper
    rw [← UpperWalker.takeBlock_eq_kind] at counts
    exact refillCache_taken (counts.map _) (fun _ filled => .upper block filled) _
  · split
    · have counts :=
        StageTwoWalker.kind.takeBlock_counts tlb.params tlb.registers block tlb.stageTwo
      rw [← StageTwoWalker.takeBlock_eq_kind] at counts
      exact refillCache_taken (counts.map _) (fun _ filled => .stageTwo block filled) _
    · exact refillCache_taken
        ((LeafWalker.takeBlock_counts tlb.params id block tlb.leaf).map _)
        (fun _ filled => .leaf id block filled) _

private theorem acceptReply_taken (reply : MemoryReply) (tlb : Tlb) :
    (∃ reads staleReads counters,
      BlockTaken { tlb with reads := reads, staleReads := staleReads, counters := counters }
        (tlb.acceptReply reply).state) ∧
      (tlb.acceptReply reply).Counts := by
  unfold acceptReply
  split
  · exact ⟨⟨tlb.reads, tlb.staleReads, tlb.counters, .nothing⟩, Outcome.faultsIn_stop _ rfl⟩
  · exact ⟨⟨tlb.reads, tlb.staleReads, tlb.counters, .nothing⟩, Outcome.faultsIn_stop _ rfl⟩
  · dsimp only
    split
    · exact ⟨⟨_, _, _, .nothing⟩, Outcome.faultsIn_of_running rfl⟩
    · obtain ⟨taken, counts⟩ := deliverBlock_taken reply.id reply.block
        { tlb with reads := tlb.reads.modify reply.id (· - 1) }
      exact ⟨⟨_, _, _, taken⟩, counts⟩

/-- The memory loses a read, which the TLB takes off its accounts. -/
theorem receiveBlock_taken (tlb : Tlb) :
    (∃ memory reads staleReads counters,
      BlockTaken
        { tlb with
          memory := memory
          reads := reads
          staleReads := staleReads
          counters := counters }
        tlb.receiveBlock.state) ∧
      tlb.receiveBlock.Counts := by
  cases due : tlb.memory.dueReply? with
  | none =>
      rw [receiveBlock_of_quiet due]
      exact ⟨⟨tlb.memory, tlb.reads, tlb.staleReads, tlb.counters, .nothing⟩,
        Outcome.faultsIn_of_running rfl⟩
  | some reply =>
      obtain ⟨⟨reads, staleReads, counters, taken⟩, counts⟩ :=
        acceptReply_taken reply { tlb with memory := tlb.memory.dropOldest }
      rw [receiveBlock_of_due due]
      exact ⟨⟨_, reads, staleReads, counters, taken⟩, counts⟩

/-! ## Translations of guest pages -/

/-- What a translation can leave of the walkers of the first stage, due or not. -/
inductive PageTaken (tlb : Tlb) (result : StageTwoResult) : Tlb → Prop
  | nothing : PageTaken tlb result tlb
  | upper :
      PageTaken tlb result
        { tlb with
          upper :=
            (UpperWalker.takeStageTwo tlb.params tlb.registers result tlb.upper).state }
  | leaf (id : Nat) :
      PageTaken tlb result
        { tlb with leaf := (LeafWalker.takeStageTwo tlb.params id result tlb.leaf).state }

theorem deliverStageTwo_taken (id : Nat) (result : StageTwoResult) (tlb : Tlb) :
    PageTaken tlb result (tlb.deliverStageTwo id result).state ∧
      (tlb.deliverStageTwo id result).Counts := by
  unfold deliverStageTwo
  rw [Outcome.andThen_of_running _ rfl]
  dsimp only
  split
  · have counts :
        (tlb.onUpper (UpperWalker.takeStageTwo tlb.params tlb.registers result)).Counts :=
      (UpperWalker.takeStageTwo_counts tlb.params tlb.registers result tlb.upper).map _
    exact ⟨.upper, counts⟩
  · split
    · exact ⟨.nothing, Outcome.faultsIn_stop tlb rfl⟩
    · have counts : (tlb.onLeaf (LeafWalker.takeStageTwo tlb.params id result)).Counts :=
        (LeafWalker.takeStageTwo_counts tlb.params id result tlb.leaf).map _
      exact ⟨.leaf id, counts⟩

inductive ReplyTaken (tlb : Tlb) : Tlb → Prop
  | nothing : ReplyTaken tlb tlb
  | taken (reply : StageTwoReply) (finished : tlb.stageTwo.reply? = some reply) {after : Tlb}
      (taken :
        PageTaken
          { tlb with stageTwo := (StageTwoWalker.takeReply tlb.params tlb.stageTwo).state }
          reply.result after) :
      ReplyTaken tlb after

theorem routeReply_taken (tlb : Tlb) :
    ReplyTaken tlb tlb.routeReply.state ∧ tlb.routeReply.Counts := by
  unfold routeReply
  cases finished : tlb.stageTwo.reply? with
  | none => exact ⟨.nothing, Outcome.faultsIn_of_running rfl⟩
  | some reply =>
      have first : (tlb.onStageTwo (StageTwoWalker.takeReply tlb.params)).Uneventful :=
        onStageTwo_uneventful (StageTwoWalker.takeReply_spec tlb.params finished).2
      obtain ⟨taken, counts⟩ := deliverStageTwo_taken reply.id reply.result
        (tlb.onStageTwo (StageTwoWalker.takeReply tlb.params)).state
      refine ⟨.taken reply finished ?_,
        Outcome.FaultsIn.andThen (Outcome.faultsIn_of_running first.running) fun _ => counts⟩
      dsimp only
      rw [Outcome.andThen_state_of_running _ first.running]
      exact taken

/-! ## Answers of the cache -/

/-- What the answer to a guest page can leave behind. -/
inductive ProbeTaken (tlb : Tlb) (answer : CacheAnswer) : Tlb → Prop
  | hit (counters : TlbCounters) {after : Tlb}
      (taken :
        PageTaken { tlb.popped answer with counters := counters } answer.stageTwo after) :
      ProbeTaken tlb answer after
  | missed (guestPages : BoundedQueue StageTwoRequest)
      (capacity : guestPages.capacity = tlb.guestPages.capacity) :
      ProbeTaken tlb answer { tlb.popped answer with guestPages := guestPages }

inductive AnswerTaken (tlb : Tlb) : Tlb → Prop
  | nothing : AnswerTaken tlb tlb
  | probe (answer : CacheAnswer) (found : tlb.cache.answer = some answer)
      (probe : answer.lookup.probe = true) {after : Tlb} (taken : ProbeTaken tlb answer after) :
      AnswerTaken tlb after
  | lookup (answer : CacheAnswer) (found : tlb.cache.answer = some answer)
      (lookup : answer.lookup.probe = false) {after : Tlb} {dropped : List Request}
      (routed : LookupRouted tlb answer after dropped) :
      AnswerTaken tlb after

private theorem routeProbe_taken (tlb : Tlb) (answer : CacheAnswer) :
    ProbeTaken tlb answer ((tlb.popped answer).routeProbe answer).state ∧
      ((tlb.popped answer).routeProbe answer).Counts := by
  unfold routeProbe
  split
  · obtain ⟨taken, counts⟩ := deliverStageTwo_taken answer.lookup.id answer.stageTwo
      ((tlb.popped answer).count fun counters =>
        { counters with stageTwoCacheHits := counters.stageTwoCacheHits + 1 })
    exact ⟨.hit _ taken, counts⟩
  · dsimp only
    split
    · rename_i guestPages sent
      exact ⟨.missed guestPages (elements_of_send sent).2, Outcome.faultsIn_of_running rfl⟩
    · exact ⟨.missed tlb.guestPages rfl, Outcome.faultsIn_stop _ rfl⟩

/-- An answer is routed wherever the queues have room. -/
theorem routeAnswer_taken {tlb : Tlb} (queues : QueuesTracked tlb) :
    AnswerTaken tlb tlb.routeAnswer.state ∧ tlb.routeAnswer.Counts := by
  cases found : tlb.cache.answer with
  | none =>
      have same : tlb.routeAnswer = { state := tlb } := by
        unfold routeAnswer
        rw [found]
      rw [same]
      exact ⟨.nothing, Outcome.faultsIn_of_running rfl⟩
  | some answer =>
      cases probe : answer.lookup.probe with
      | true =>
          obtain ⟨taken, counts⟩ := routeProbe_taken tlb answer
          rw [routeAnswer_of_probe found probe]
          exact ⟨.probe answer found probe taken, counts⟩
      | false =>
          obtain ⟨routed, running⟩ := routeAnswer_of_lookup queues found probe
          exact ⟨.lookup answer found probe routed, Outcome.faultsIn_of_running running⟩

/-! ## What holds throughout a run -/

section Kept

variable {holds : Tlb → Prop} {tlb : Tlb}

private theorem walk_keeps
    (phase : ∀ phase ∈ phases, ∀ tlb, holds tlb →
      holds (phase tlb).state ∧ (phase tlb).Counts)
    {walked : List (Tlb → Outcome Tlb)} (part : walked ⊆ phases) (start : holds tlb) :
    holds (Outcome.forEach (fun phase tlb => phase tlb) walked tlb).state ∧
      (Outcome.forEach (fun phase tlb => phase tlb) walked tlb).Counts :=
  Outcome.forEach_keeps (fun other member => phase other (part member)) start

/-- What every phase of a step and every other turn keeps, a turn keeps, and it does not stop
for a lookup that was miscounted. -/
theorem turn_keeps
    (phase : ∀ phase ∈ phases, ∀ tlb, holds tlb →
      holds (phase tlb).state ∧ (phase tlb).Counts)
    (acted : ∀ tlb after, holds tlb → Acted tlb after → holds after)
    (start : holds tlb) (change : Turn) :
    holds (tlb.turn change).state ∧ (tlb.turn change).Counts := by
  rcases turn_cases change tlb with rfl | ⟨reached, counts⟩
  · exact walk_keeps phase (List.Subset.refl phases) start
  · exact ⟨acted tlb _ start reached, counts⟩

/-- What every phase of a step and every other turn keeps, holds at every point of a run. -/
theorem during_induction
    (phase : ∀ phase ∈ phases, ∀ tlb, holds tlb →
      holds (phase tlb).state ∧ (phase tlb).Counts)
    (acted : ∀ tlb after, holds tlb → Acted tlb after → holds after)
    (start : holds tlb) (turns : List Turn) (count : Nat) :
    holds (tlb.during turns count).state ∧ (tlb.during turns count).Counts := by
  have next (change : Turn) (_ : change ∈ turns) (tlb : Tlb) (before : holds tlb) :
      holds (tlb.turn change).state ∧ (tlb.turn change).Counts :=
    turn_keeps phase acted before change
  obtain ⟨between, counts⟩ := Outcome.forEach_keeps next start
  obtain ⟨last, lastCounts⟩ := walk_keeps phase (List.take_subset count phases) between
  exact ⟨Outcome.andThen_state_induction between fun _ _ => last,
    counts.andThen fun _ => lastCounts⟩

end Kept

end Tlb

end PageWalk
