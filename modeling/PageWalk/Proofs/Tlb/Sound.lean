import PageWalk.Proofs.Tlb.Served
import PageWalk.Proofs.Tlb.Steps
import PageWalk.Proofs.Walks.Leaf
import PageWalk.Proofs.Walks.StageTwo

/-!
# Soundness

Under one setting everything that the TLB knows is true: the lines of its cache, what its
walkers have found and the blocks on their way to them, and also its responses if it is
`clear` that no address is protected. Every phase of a step keeps the state sound.
-/

namespace PageWalk.Tlb

/-! ## The invariant -/

/-- The TLB translates by the setting, and may read every address if that is clear. -/
structure Follows (setting : Setting) (clear : Prop) (tlb : Tlb) : Prop where
  bits : tlb.params.addressBits = setting.addressBits
  registers : tlb.registers = setting.registers
  words : setting.word = tlb.memory.readWord
  allows : clear → ∀ address, (tlb.protection address).accessFault = false

theorem Follows.of_framed
    {setting : Setting} {clear : Prop} {tlb after : Tlb} (follows : Follows setting clear tlb)
    (framed : Framed tlb after) : Follows setting clear after where
  bits := by rw [framed.params]; exact follows.bits
  registers := framed.registers.trans follows.registers
  words := by
    rw [follows.words]
    unfold Memory.readWord
    rw [framed.words]
  allows := by rw [framed.protection]; exact follows.allows

/-- The cache and the walkers say only what is true of the setting. So do the responses
if no address is protected. -/
structure Sound (setting : Setting) (clear : Prop) (tlb : Tlb) : Prop where
  follows : Follows setting clear tlb
  cache : tlb.cache.Stocked setting.facts
  probes : ∀ lookup ∈ tlb.cache.lookups, lookup.probe = true → lookup.request.mode = .stageTwo
  pages : ∀ request ∈ tlb.guestPages.elements, request.Hinted setting
  upper : tlb.upper.state.OnTrack setting clear
  leaf : tlb.leaf.OnTrack setting clear
  stageTwo : tlb.stageTwo.state.OnTrack setting clear
  reads : ReadsServed setting tlb
  answers : clear → ∀ response ∈ tlb.responses, setting.Answers response

/-! ## States with one part changed -/

section Parts

variable {setting : Setting} {clear : Prop} {tlb after : Tlb}

/-- The counters and the queues of lookups may be any. -/
theorem Sound.withQueues
    (sound : Sound setting clear tlb) {cycle : Word} {inputs : BoundedQueue Request}
    {misses : BoundedQueue Lookup} {lookupsInCache : Nat} {reads staleReads : Array Nat}
    {counters : TlbCounters} :
    Sound setting clear
      { tlb with
        cycle := cycle
        inputs := inputs
        misses := misses
        lookupsInCache := lookupsInCache
        reads := reads
        staleReads := staleReads
        counters := counters } :=
  { sound with
    follows := { sound.follows with }
    reads := fun id read last => { sound.reads id read last with } }

/-- The memory may answer reads, as long as its words stay. -/
theorem Sound.withMemory
    (sound : Sound setting clear tlb) (memory : Memory) (words : memory.words = tlb.memory.words)
    (youngest : ∀ id read, memory.youngest? id = some read →
      tlb.memory.youngest? id = some read) :
    Sound setting clear { tlb with memory := memory } :=
  { sound with
    follows := sound.follows.of_framed { Framed.refl tlb with words := words }
    reads := sound.reads.of_kept rfl youngest (fun _ waits => waits) (fun _ waits => waits)
      (.refl _) }

/-- The blocks that are still on their way are served as before. -/
theorem Sound.withOldestDropped (sound : Sound setting clear tlb) :
    Sound setting clear { tlb with memory := tlb.memory.dropOldest } :=
  sound.withMemory _ rfl fun _ _ last => Memory.youngest_dropOldest last

theorem Sound.withCache
    (sound : Sound setting clear tlb) {cache : Cache} (stocked : cache.Stocked setting.facts)
    (probes : ∀ lookup ∈ cache.lookups, lookup.probe = true → lookup.request.mode = .stageTwo) :
    Sound setting clear { tlb with cache := cache } :=
  { sound with
    follows := { sound.follows with }
    cache := stocked
    probes := probes
    reads := fun id read last => { sound.reads id read last with } }

/-- The cache may be filled with what is true. -/
theorem Sound.withRefill
    (sound : Sound setting clear tlb) {refill : Refill} (level : refill.level ≤ leafLevel)
    (brings : refill.Brings setting.facts tlb.params setting.registers) :
    Sound setting clear
      { tlb with cache := (Cache.refill tlb.params tlb.registers refill tlb.cache).state } := by
  have same := sound.follows.registers
  refine sound.withCache (sound.cache.refill (by rw [same]; exact brings) level) ?_
  rw [(Cache.refill_spec tlb.params tlb.registers tlb.cache level).1]
  exact sound.probes

theorem Sound.withUpper
    (sound : Sound setting clear tlb) {upper : UpperWalker}
    (track : upper.state.OnTrack setting clear)
    (kept : ∀ address, upper.awaitedAddress? = some address →
      tlb.upper.awaitedAddress? = some address) :
    Sound setting clear { tlb with upper := upper } :=
  { sound with
    follows := { sound.follows with }
    upper := track
    reads := sound.reads.of_kept rfl (fun _ _ last => last) kept (fun _ waits => waits)
      (.refl _) }

theorem Sound.withLeaf
    (sound : Sound setting clear tlb) {leaf : LeafWalker} (track : leaf.OnTrack setting clear)
    (kept : LeafWalker.WaitsKept tlb.leaf leaf) : Sound setting clear { tlb with leaf := leaf } :=
  { sound with
    follows := { sound.follows with }
    leaf := track
    reads := sound.reads.of_kept rfl (fun _ _ last => last) (fun _ waits => waits)
      (fun _ waits => waits) kept }

theorem Sound.withStageTwo
    (sound : Sound setting clear tlb) {stageTwo : StageTwoWalker}
    (track : stageTwo.state.OnTrack setting clear)
    (kept : ∀ address, stageTwo.awaitedAddress? = some address →
      tlb.stageTwo.awaitedAddress? = some address) :
    Sound setting clear { tlb with stageTwo := stageTwo } :=
  { sound with
    follows := { sound.follows with }
    stageTwo := track
    reads := sound.reads.of_kept rfl (fun _ _ last => last) (fun _ waits => waits) kept
      (.refl _) }

theorem Sound.withPages
    (sound : Sound setting clear tlb) {guestPages : BoundedQueue StageTwoRequest}
    (hinted : ∀ request ∈ guestPages.elements, request.Hinted setting) :
    Sound setting clear { tlb with guestPages := guestPages } :=
  { sound with
    follows := { sound.follows with }
    pages := hinted
    reads := fun id read last => { sound.reads id read last with } }

theorem Sound.withResponses
    (sound : Sound setting clear tlb) {responses : List Response}
    (answers : clear → ∀ response ∈ responses, setting.Answers response) :
    Sound setting clear { tlb with responses := responses } :=
  { sound with
    follows := { sound.follows with }
    reads := fun id read last => { sound.reads id read last with }
    answers := answers }

/-- A response that answers its lookup may be appended. -/
theorem Sound.respond
    (sound : Sound setting clear tlb) {response : Response}
    (answers : clear → setting.Answers response) :
    Sound setting clear { tlb with responses := tlb.responses ++ [response] } := by
  refine sound.withResponses fun unprotected other member => ?_
  rcases List.mem_append.1 member with before | here
  · exact sound.answers unprotected other before
  · rw [List.mem_singleton.1 here]
    exact answers unprotected

end Parts

/-! ## Blocks -/

section Blocks

variable {readsBefore : Nat} {setting : Setting} {clear : Prop} {tlb : Tlb}

private theorem Sound.takeUpperBlock
    (sound : Sound setting clear tlb) (bounded : tlb.upper.Bounded) {walk : UpperWalk}
    {address : Word} (waits : tlb.upper.state = .memoryWait walk address) {block : Block}
    (asked : block = setting.block address) :
    Sound setting clear
      { tlb with
        upper := (UpperWalker.takeBlock tlb.params tlb.registers block tlb.upper).state
        cache :=
          (Cache.refill tlb.params tlb.registers (walk.refill address block)
            tlb.cache).state } := by
  have bits := sound.follows.bits
  have words := sound.follows.words
  have level : (walk.refill address block).level ≤ leafLevel :=
    Nat.le_succ_of_le (bounded walk (by rw [waits]; rfl))
  have moved :=
    UpperWalker.takeBlock_moved tlb.params tlb.registers block
      (UpperWalker.awaitedAddress_of_memoryWait waits) bounded
  rw [← Setting.readBlock_eq words] at asked
  have brings : (walk.refill address block).Brings setting.facts tlb.params
      setting.registers := by
    rw [asked]
    exact UpperWalker.refill_brings bits words waits bounded sound.upper
  refine (sound.withRefill level brings).withUpper ?_ fun other later => ?_
  · rw [asked, sound.follows.registers]
    exact UpperWalker.takeBlock_onTrack bits words waits bounded sound.upper
  · cases moved.address.symm.trans later

private theorem Sound.takeStageTwoBlock
    (sound : Sound setting clear tlb) (bounded : tlb.stageTwo.Bounded) {walk : GuestWalk}
    {address : Word} (waits : tlb.stageTwo.state = .memoryWait walk address) {block : Block}
    (asked : block = setting.block address) :
    Sound setting clear
      { tlb with
        stageTwo := (StageTwoWalker.takeBlock tlb.params tlb.registers block tlb.stageTwo).state
        cache :=
          (Cache.refill tlb.params tlb.registers (walk.refill address block)
            tlb.cache).state } := by
  have bits := sound.follows.bits
  have words := sound.follows.words
  have level : (walk.refill address block).level ≤ leafLevel :=
    bounded walk (by rw [waits]; rfl)
  obtain ⟨_, free, _⟩ :=
    StageTwoWalker.takeBlock_spec tlb.params tlb.registers block
      (StageTwoWalker.awaitedAddress_of_memoryWait waits) bounded
  rw [← Setting.readBlock_eq words] at asked
  have brings : (walk.refill address block).Brings setting.facts tlb.params
      setting.registers := by
    rw [asked]
    exact StageTwoWalker.refill_brings bits words waits bounded sound.stageTwo
  refine (sound.withRefill level brings).withStageTwo ?_ fun other later => ?_
  · rw [asked, sound.follows.registers]
    exact StageTwoWalker.takeBlock_onTrack bits words waits bounded sound.stageTwo
  · cases free.symm.trans later

private theorem Sound.takeLeafBlock
    (sound : Sound setting clear tlb) (linked : tlb.leaf.Linked) {id : Nat}
    (waits : (tlb.leaf.entry id).state = .memoryWait id) {block : Block}
    (holds : setting.Holds (tlb.leaf.entry id).request.mode (tlb.leaf.entry id).request.vpn
      block) :
    Sound setting clear
      { tlb with
        leaf := (LeafWalker.takeBlock tlb.params id block tlb.leaf).state
        cache :=
          (Cache.refill tlb.params tlb.registers ((tlb.leaf.entry id).refill block)
            tlb.cache).state } := by
  have bits := sound.follows.bits
  have awaited := (LeafWalker.awaitsBlock_iff tlb.leaf id).2 waits
  exact (sound.withRefill (Nat.le_refl _) (LeafWalker.refill_brings bits holds)).withLeaf
    (LeafWalker.takeBlock_onTrack bits linked waits holds sound.leaf)
    (LeafWalker.takeBlock_waitsKept tlb.params block awaited)

/-- A block that is delivered is the one that its walker asked for. -/
private theorem BlockDelivered.sound
    {read : PendingRead} {after : Tlb} {ticket : Option (Nat × Word)}
    (delivered : BlockDelivered (tlb.arrived read.id) read.id read.block after)
    (tracked : PagesTracked tlb ticket) (sound : Sound setting clear tlb)
    (youngest : tlb.memory.youngest? read.id = some read) : Sound setting clear after := by
  have arrived : Sound setting clear (tlb.arrived read.id) :=
    sound.withOldestDropped.withQueues
  have serves := sound.reads read.id read youngest
  cases delivered with
  | upper walk address reader waits =>
      have asked :=
        serves.upper reader address (UpperWalker.awaitedAddress_of_memoryWait waits)
      exact arrived.takeUpperBlock tracked.upper waits asked
  | stageTwo walk address reader waits =>
      have asked :=
        serves.stageTwo reader address (StageTwoWalker.awaitedAddress_of_memoryWait waits)
      exact arrived.takeStageTwoBlock tracked.stageTwo waits asked
  | leaf first second waits =>
      have holds := serves.leaf first second ((LeafWalker.awaitsBlock_iff _ _).2 waits)
      exact arrived.takeLeafBlock tracked.leaf.linked waits holds

theorem Sound.receiveBlock
    (sound : Sound setting clear tlb) (coherent : Coherent readsBefore tlb) :
    Sound setting clear tlb.receiveBlock.state := by
  obtain ⟨ticket, tracked⟩ := coherent.pages
  have received := receiveBlock_cases coherent.reads tracked.upper tracked.stageTwo
  generalize tlb.receiveBlock = outcome at received ⊢
  cases received with
  | nothing _ state _ =>
      rw [state]
      exact sound
  | overflow read rest oldest outside state _ _ =>
      rw [state]
      exact sound.withOldestDropped.withQueues
  | stale read rest oldest inside old counters state _ =>
      rw [state]
      exact sound.withOldestDropped.withQueues
  | live read rest oldest inside fresh awaited delivered _ =>
      -- With no stale read and one in all, the oldest read is also the youngest.
      have account := coherent.reads.accounts read.id inside
      unfold Accounted at account
      rw [fresh, awaited] at account
      exact delivered.sound tracked sound (Memory.youngest_of_only oldest account.only)

end Blocks

/-! ## Translations and leaf walks -/

section Handovers

variable {readsBefore : Nat} {setting : Setting} {clear : Prop} {tlb : Tlb}

/-- A translation that can be trusted keeps the state sound. -/
private theorem PageDelivered.sound
    {after : Tlb} {ticket : Option (Nat × Word)} {id : Nat} {page : Word}
    {result : StageTwoResult} (delivered : PageDelivered tlb ticket id page result after)
    (upper : tlb.upper.Bounded) (orderly : tlb.leaf.Orderly ticket)
    (sound : Sound setting clear tlb) (trusted : result.Trusted setting clear page) :
    Sound setting clear after := by
  cases delivered with
  | upper reader waits others =>
      have moved :=
        (UpperWalker.takeStageTwo_moved tlb.params tlb.registers result waits upper).1
      have track : (UpperWalker.takeStageTwo tlb.params tlb.registers result
          tlb.upper).state.state.OnTrack setting clear := by
        rw [sound.follows.registers]
        exact UpperWalker.takeStageTwo_onTrack tlb.params waits upper trusted sound.upper
      refine sound.withUpper track fun address waits => ?_
      cases moved.address.symm.trans waits
  | leaf reader waits others =>
      subst waits
      exact sound.withLeaf
        (LeafWalker.takeStageTwo_onTrack sound.follows.bits orderly trusted sound.leaf)
        (LeafWalker.takeStageTwo_waitsKept tlb.params id result orderly.linked orderly.busy)

theorem Sound.routeReply
    (sound : Sound setting clear tlb) (coherent : Coherent readsBefore tlb) :
    Sound setting clear tlb.routeReply.state := by
  obtain ⟨ticket, tracked⟩ := coherent.pages
  obtain ⟨replied, _⟩ := routeReply_cases tracked
  generalize tlb.routeReply.state = after at replied ⊢
  cases replied with
  | nothing => exact sound
  | delivered reply finished delivered =>
      have trusted : reply.result.Trusted setting clear reply.result.tag := by
        have track := sound.stageTwo
        rw [finished] at track
        exact track
      have taken : tlb.stageTwo.reply? = some reply := by
        unfold StageTwoWalker.reply?
        rw [finished]
      have idle := (StageTwoWalker.takeReply_spec tlb.params taken).1
      have freed : Sound setting clear
          { tlb with stageTwo := (StageTwoWalker.takeReply tlb.params tlb.stageTwo).state } := by
        refine sound.withStageTwo (by rw [idle]; trivial) fun address waits => ?_
        cases (StageTwoWalker.observations_of_idle idle).2.1.symm.trans waits
      exact delivered.sound tracked.upper tracked.leaf freed trusted

theorem Sound.dispatch
    (sound : Sound setting clear tlb) (coherent : Coherent readsBefore tlb) :
    Sound setting clear tlb.dispatch.state := by
  obtain ⟨ticket, tracked⟩ := coherent.pages
  obtain ⟨dispatched, _⟩ := dispatch_cases tlb
  generalize tlb.dispatch.state = after at dispatched ⊢
  generalize tlb.dispatch.discarded = dropped at dispatched
  cases dispatched with
  | nothing => exact sound
  | handed leaf finished ready =>
      obtain ⟨walk, state, same⟩ := UpperWalker.state_of_dispatch finished
      have reached : leaf.Reached setting := by
        have track := sound.upper
        rw [state] at track
        rw [same]
        exact track
      have idle := (UpperWalker.takeDispatch_spec tlb.params finished).1
      refine Sound.withUpper
        (sound.withLeaf (LeafWalker.accept_onTrack sound.follows.bits reached ready sound.leaf)
          (LeafWalker.accept_waitsKept tlb.params leaf tracked.leaf.linked ready))
        (by rw [idle]; trivial) fun address waits => ?_
      cases (UpperWalker.moved_of_idle idle).2.2.1.symm.trans waits

end Handovers

/-! ## Answers of the cache -/

section Answers

variable {readsBefore : Nat} {setting : Setting} {clear : Prop} {tlb : Tlb} {answer : CacheAnswer}

/-- The response that a hit makes answers its lookup. -/
theorem responseOfHit_answers
    (backed : answer.Backed setting.facts) (hit : answer.hit = true) :
    setting.Answers (responseOfHit answer) := by
  obtain ⟨shown, ends⟩ := backed.stageOne hit
  refine ⟨fun _ => shown, fun second => ?_, fun nested unmapped => ?_,
    fun _ walked => (by cases walked), fun first _ => if_neg first⟩
  · exact ⟨answer.stageTwo, if_pos second, backed.guestPage hit second⟩
  · have mode : answer.lookup.request.mode = .nested := nested
    rw [mode] at ends
    exact absurd unmapped ends

private theorem Sound.popped
    (sound : Sound setting clear tlb) (found : tlb.cache.answer = some answer) :
    Sound setting clear (tlb.popped answer) := by
  refine sound.withCache (sound.cache.withoutAnswer answer) fun lookup member => ?_
  apply sound.probes
  rw [lookups_of_answer found]
  exact List.mem_cons_of_mem _ member

private theorem Sound.routeProbe
    (sound : Sound setting clear tlb) {ticket : Option (Nat × Word)}
    (tracked : PagesTracked tlb ticket) (found : tlb.cache.answer = some answer)
    (probe : answer.lookup.probe = true) {after : Tlb}
    (routed : ProbeRouted tlb ticket answer after) : Sound setting clear after := by
  have backed := sound.cache.piped.answer answer found
  have member : answer.lookup ∈ tlb.cache.lookups := by
    rw [lookups_of_answer found]
    exact List.mem_cons_self
  have second := sound.probes answer.lookup member probe
  have popped := sound.popped found
  cases routed with
  | hit hit counters delivered =>
      have counted : Sound setting clear { tlb.popped answer with counters := counters } :=
        popped.withQueues
      exact delivered.sound tracked.upper tracked.leaf counted fun _ =>
        backed.guestPage hit second
  | queued missed guestPages elements capacity =>
      refine popped.withPages fun request member => ?_
      rw [elements] at member
      rcases List.mem_append.1 member with before | here
      · exact sound.pages request before
      · rw [List.mem_singleton.1 here]
        have hints := backed.hints
        rw [second] at hints
        exact hints

private theorem Sound.routeLookup
    (sound : Sound setting clear tlb) {ticket : Option (Nat × Word)}
    (tracked : PagesTracked tlb ticket) (found : tlb.cache.answer = some answer)
    {after : Tlb} {dropped : List Request} (routed : LookupRouted tlb answer after dropped) :
    Sound setting clear after := by
  have backed := sound.cache.piped.answer answer found
  have hints := backed.hints
  have released : Sound setting clear (tlb.released answer) :=
    (sound.popped found).withQueues
  cases routed with
  | hit hit counters =>
      exact (released.respond fun _ => responseOfHit_answers backed hit).withQueues
  | parked missed misses elements capacity counters =>
      exact released.withQueues
  | leaf missed middle first ready counters =>
      have reached : LeafRequest.Reached setting ⟨answer.lookup.request, answer.hint.ppn⟩ :=
        ⟨first, hints.middle middle⟩
      have accepted := released.withLeaf
        (LeafWalker.accept_onTrack sound.follows.bits reached ready sound.leaf)
        (LeafWalker.accept_waitsKept tlb.params _ tracked.leaf.linked ready)
      exact accepted.withQueues
  | upper missed walks ready counters =>
      generalize given :
        UpperRequest.mk answer.lookup.request answer.hint.root answer.hint.ppn = request
      have hinted : request.Hinted setting := by
        rw [← given]
        intro first root
        exact hints.root (walks.resolve_right first) root
      obtain ⟨_, _, address, _⟩ :=
        UpperWalker.accept_moved tlb.params tlb.registers request ready
      have track : (UpperWalker.accept tlb.params tlb.registers request
          tlb.upper).state.state.OnTrack setting clear := by
        rw [sound.follows.registers]
        exact UpperWalker.accept_onTrack tlb.params hinted ready
      have accepted := released.withUpper track fun other waits => by
        cases address.symm.trans waits
      exact accepted.withQueues

theorem Sound.routeAnswer
    (sound : Sound setting clear tlb) (coherent : Coherent readsBefore tlb) :
    Sound setting clear tlb.routeAnswer.state := by
  obtain ⟨ticket, tracked⟩ := coherent.pages
  obtain ⟨routed, _⟩ := routeAnswer_cases tracked coherent.queues
  generalize tlb.routeAnswer.state = after at routed ⊢
  generalize tlb.routeAnswer.discarded = dropped at routed
  cases routed with
  | nothing => exact sound
  | probe answer found probe routed => exact sound.routeProbe tracked found probe routed
  | lookup answer found lookup routed => exact sound.routeLookup tracked found routed

end Answers

/-! ## Finished walks -/

section Finished

variable {setting : Setting} {clear : Prop} {tlb : Tlb}

theorem Sound.collectUpper (sound : Sound setting clear tlb) :
    Sound setting clear tlb.collectUpper.state := by
  obtain ⟨collected, _⟩ := collectUpper_cases tlb
  generalize tlb.collectUpper.state = after at collected ⊢
  cases collected with
  | nothing => exact sound
  | answered response finished counters =>
      have answers : clear → setting.Answers response := by
        have track := sound.upper
        rw [UpperWalker.state_of_response finished] at track
        exact track
      have idle := (UpperWalker.takeResponse_spec tlb.params finished).1
      have freed : Sound setting clear
          { tlb with upper := (UpperWalker.takeResponse tlb.params tlb.upper).state } := by
        refine sound.withUpper (by rw [idle]; trivial) fun address waits => ?_
        cases (UpperWalker.moved_of_idle idle).2.2.1.symm.trans waits
      exact (freed.respond answers).withQueues

theorem Sound.collectLeaf (sound : Sound setting clear tlb) :
    Sound setting clear tlb.collectLeaf.state := by
  obtain ⟨collected, _⟩ := collectLeaf_cases tlb
  generalize tlb.collectLeaf.state = after at collected ⊢
  cases collected with
  | nothing => exact sound
  | answered index found counters =>
      have finished := (LeafWalker.finished_spec found).2
      have answers (unprotected : clear) :=
        (sound.leaf index).answers unprotected finished sound.follows.bits tlb.registers
      have freed := sound.withLeaf
        (LeafWalker.takeFinished_onTrack tlb.params found sound.leaf)
        (LeafWalker.takeFinished_waitsKept tlb.params found)
      exact (freed.respond answers).withQueues

end Finished

/-! ## Walkers and reads -/

section Reads

variable {readsBefore : Nat} {setting : Setting} {clear : Prop} {tlb : Tlb}

theorem Sound.tickWalkers
    (sound : Sound setting clear tlb) (coherent : Coherent readsBefore tlb) :
    Sound setting clear tlb.tickWalkers.state := by
  obtain ⟨ticket, tracked⟩ := coherent.pages
  have allows := sound.follows.allows
  have registers := sound.follows.registers
  have upper : (UpperWalker.tick tlb.params tlb.registers tlb.protection
      tlb.upper).state.state.OnTrack setting clear := by
    rw [registers]
    exact UpperWalker.tick_onTrack tlb.params allows sound.upper
  have stageTwo : (StageTwoWalker.tick tlb.params tlb.registers tlb.protection
      tlb.stageTwo).state.state.OnTrack setting clear := by
    rw [registers]
    exact StageTwoWalker.tick_onTrack tlb.params allows sound.stageTwo
  have first := sound.withUpper upper fun address waits => by
    rw [(UpperWalker.tick_alike _ _ _ _).address] at waits
    exact waits
  have second := first.withLeaf (LeafWalker.tick_onTrack tlb.params allows sound.leaf)
    (LeafWalker.tick_alike tlb.params tlb.protection tlb.leaf).waitsKept
  have third := second.withStageTwo stageTwo fun address waits => by
    rw [(StageTwoWalker.tick_spec _ _ _ tracked.stageTwo).2.1] at waits
    exact waits
  rw [(tickWalkers_spec tlb).1]
  exact third

/-- A read that is accepted serves its walker, which waits for it now. -/
private theorem ReadFired.served
    {request : MemoryRequest} {fired : Tlb}
    (told : ReadFired { tlb with memory := tlb.memory.accept request } request fired)
    (sound : Sound setting clear tlb) (coherent : Coherent readsBefore tlb) :
    ReadsServed setting fired := by
  have distinct := tlb.params.stageTwoId_ne_upperId
  have words := sound.follows.words
  cases told with
  | upper wanted =>
      have wanted : tlb.upper.memoryRequest? tlb.params = some request := wanted
      obtain ⟨_, _, id, _⟩ := UpperWalker.fireMemory_spec tlb.params wanted
      have now := (UpperWalker.fireMemory_waits tlb.params wanted).2
      refine sound.reads.send rfl (fun other block different serves => ?_) ⟨?_, ?_, ?_⟩
      · rw [id] at different
        exact serves.of_kept rfl (absurd · different) (fun _ _ waits => waits)
          fun waits => ⟨waits, rfl⟩
      · intro _ address waits
        cases now.symm.trans waits
        exact Setting.readBlock_eq words _
      · exact fun second => absurd (second.symm.trans id) distinct
      · exact fun first => absurd id first
  | leaf wanted =>
      have wanted : tlb.leaf.memoryRequest? = some request := wanted
      have asks := (LeafWalker.memoryRequest_spec wanted).2
      obtain ⟨_, first, second⟩ :=
        coherent.number_of_busy (by rw [asks]; exact LeafState.noConfusion)
      refine sound.reads.send rfl (fun other block different serves => ?_) ⟨?_, ?_, ?_⟩
      · refine serves.of_kept rfl (fun _ _ waits => waits) (fun _ _ waits => waits) ?_
        intro waits
        obtain ⟨before, same⟩ := LeafWalker.fireMemory_waits tlb.params wanted waits
        exact ⟨before.resolve_right different, same⟩
      · exact fun reader => absurd reader first
      · exact fun reader => absurd reader second
      · intro _ _ waits
        have same := (LeafWalker.fireMemory_waits tlb.params wanted waits).2
        dsimp only
        rw [same]
        exact LeafWalker.memoryRequest_holds words wanted sound.leaf
  | stageTwo wanted =>
      have wanted : tlb.stageTwo.memoryRequest? tlb.params = some request := wanted
      obtain ⟨_, _, id, _⟩ := StageTwoWalker.fireMemory_spec tlb.params wanted
      have now := (StageTwoWalker.fireMemory_waits tlb.params wanted).2
      refine sound.reads.send rfl (fun other block different serves => ?_) ⟨?_, ?_, ?_⟩
      · rw [id] at different
        exact serves.of_kept rfl (fun _ _ waits => waits) (absurd · different)
          fun waits => ⟨waits, rfl⟩
      · exact fun first => absurd (id.symm.trans first) distinct
      · intro _ address waits
        cases now.symm.trans waits
        exact Setting.readBlock_eq words _
      · exact fun _ second => absurd id second

/-- A read that is accepted and that its walker knows of keeps the state sound. -/
private theorem ReadFired.sound
    {request : MemoryRequest} {fired : Tlb}
    (told : ReadFired { tlb with memory := tlb.memory.accept request } request fired)
    (sound : Sound setting clear tlb) (coherent : Coherent readsBefore tlb) :
    Sound setting clear fired := by
  have served := told.served sound coherent
  cases told with
  | upper wanted =>
      exact
        { sound with
          follows := { sound.follows with }
          upper := UpperWalker.fireMemory_onTrack wanted sound.upper
          reads := served }
  | leaf wanted =>
      exact
        { sound with
          follows := { sound.follows with }
          leaf := LeafWalker.fireMemory_onTrack tlb.params wanted sound.leaf
          reads := served }
  | stageTwo wanted =>
      exact
        { sound with
          follows := { sound.follows with }
          stageTwo := StageTwoWalker.fireMemory_onTrack tlb.params wanted sound.stageTwo
          reads := served }

theorem Sound.sendRead
    (sound : Sound setting clear tlb) (coherent : Coherent readsBefore tlb) :
    Sound setting clear tlb.sendRead.state := by
  obtain ⟨sent, _⟩ := sendRead_cases tlb
  generalize tlb.sendRead.state = after at sent ⊢
  cases sent with
  | nothing => exact sound
  | sent request counters told =>
      exact (ReadFired.sound told sound coherent).withQueues

end Reads

/-! ## Guest pages and lookups -/

section Lookups

variable {setting : Setting} {clear : Prop} {tlb : Tlb}

theorem Sound.startGuestPage (sound : Sound setting clear tlb) :
    Sound setting clear tlb.startGuestPage.state := by
  obtain ⟨started, _⟩ := startGuestPage_cases tlb
  generalize tlb.startGuestPage.state = after at started ⊢
  cases started with
  | nothing => exact sound
  | started request oldest ready =>
      have hinted := sound.pages request (by rw [oldest]; exact List.mem_cons_self)
      obtain ⟨_, address, _⟩ :=
        StageTwoWalker.accept_spec tlb.params tlb.registers request ready
      have track : (StageTwoWalker.accept tlb.params tlb.registers request
          tlb.stageTwo).state.state.OnTrack setting clear := by
        rw [sound.follows.registers]
        exact StageTwoWalker.accept_onTrack tlb.params hinted ready
      have started := sound.withStageTwo track fun other waits => by
        cases address.symm.trans waits
      refine started.withPages fun other member => ?_
      exact sound.pages other (by rw [oldest]; exact List.mem_cons_of_mem request member)

/-- A lookup that the cache accepts keeps the state sound if, for a guest page, it is of
the second stage. -/
private theorem Sound.fed
    (sound : Sound setting clear tlb) (free : tlb.cache.waiting = none) {lookup : Lookup}
    (second : lookup.probe = true → lookup.request.mode = .stageTwo) :
    Sound setting clear (tlb.fed lookup) := by
  refine sound.withCache (stocked_fed sound.cache lookup) fun other member probe => ?_
  rw [Cache.lookups_of_accepted free] at member
  rcases List.mem_append.1 member with before | here
  · exact sound.probes other before probe
  · have same := List.mem_singleton.1 here
    subst same
    exact second probe

theorem Sound.feedCache
    {readsBefore : Nat} (sound : Sound setting clear tlb) (coherent : Coherent readsBefore tlb) :
    Sound setting clear tlb.feedCache.state := by
  obtain ⟨ticket, tracked⟩ := coherent.pages
  obtain ⟨fed, _⟩ := feedCache_cases tlb
  generalize tlb.feedCache.state = after at fed ⊢
  cases fed with
  | nothing counters =>
      exact sound.withCache ⟨{ sound.cache.shelved with }, { sound.cache.piped with }⟩
        sound.probes
  | upper request wanted free =>
      obtain ⟨_, _, _, address, _⟩ :=
        UpperWalker.fireStageTwo_waits tlb.params wanted tracked.upper
      have probed : Sound setting clear (tlb.fed (probeOf request)) := sound.fed free fun _ => rfl
      refine probed.withUpper (UpperWalker.fireStageTwo_onTrack wanted sound.upper) ?_
      rw [address]
      exact fun _ waits => waits
  | leaf request wants wanted free =>
      have probed : Sound setting clear (tlb.fed (probeOf request)) := sound.fed free fun _ => rfl
      exact probed.withLeaf (LeafWalker.fireStageTwo_onTrack tlb.params wants wanted sound.leaf)
        (LeafWalker.fireStageTwo_alike tlb.params wants wanted).waitsKept
  | miss lookup oldest free =>
      have outside := coherent.queues.parked lookup (by rw [oldest]; exact List.mem_cons_self)
      have probed : Sound setting clear (tlb.fed lookup) := by
        refine sound.fed free fun probe => ?_
        rw [outside] at probe
        cases probe
      exact probed.withQueues
  | input request oldest free =>
      have probed : Sound setting clear (tlb.fed { request := request, first := true }) :=
        sound.fed free fun probe => (by cases probe)
      exact probed.withQueues

theorem Sound.tickCache (sound : Sound setting clear tlb) :
    Sound setting clear (tlb.onCache (Cache.tick tlb.params tlb.registers)).state := by
  refine sound.withCache (sound.cache.tick tlb.params tlb.registers) ?_
  rw [Cache.tick_lookups]
  exact sound.probes

end Lookups

/-! ## The step -/

section Steps

variable {readsBefore : Nat} {setting : Setting} {clear : Prop} {tlb : Tlb}

theorem Sound.endStep (sound : Sound setting clear tlb) : Sound setting clear tlb.endStep.state :=
  (sound.withMemory tlb.memory.tick rfl fun _ _ last => last).withQueues

/-- Every phase keeps the state sound. -/
theorem Sound.phase
    {phase : Tlb → Outcome Tlb} (member : phase ∈ phases) (sound : Sound setting clear tlb)
    (coherent : Coherent readsBefore tlb) : Sound setting clear (phase tlb).state := by
  simp only [phases, List.mem_cons, List.not_mem_nil, or_false] at member
  rcases member with rfl | rfl | rfl | rfl | rfl | rfl | rfl | rfl | rfl | rfl | rfl | rfl
  · exact sound.receiveBlock coherent
  · exact sound.routeReply coherent
  · exact sound.dispatch coherent
  · exact sound.routeAnswer coherent
  · exact sound.collectUpper
  · exact sound.collectLeaf
  · exact sound.tickWalkers coherent
  · exact sound.sendRead coherent
  · exact sound.startGuestPage
  · exact sound.feedCache coherent
  · exact sound.tickCache
  · exact sound.endStep

/-- What the phases keep together. -/
theorem phase_coherent_and_sound
    (phase : Tlb → Outcome Tlb) (member : phase ∈ phases) (current : Tlb)
    (before : Coherent readsBefore current ∧ Sound setting clear current) :
    Coherent readsBefore (phase current).state ∧ Sound setting clear (phase current).state :=
  ⟨(before.1.phase member).coherent, before.2.phase member before.1⟩

/-- A step keeps a sound and coherent state sound. -/
theorem Sound.tick (sound : Sound setting clear tlb) (coherent : Coherent readsBefore tlb) :
    Sound setting clear tlb.tick.state :=
  (Outcome.forEach_state_induction phase_coherent_and_sound ⟨coherent, sound⟩).2

end Steps

end PageWalk.Tlb
