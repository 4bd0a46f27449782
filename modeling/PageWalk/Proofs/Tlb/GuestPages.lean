import PageWalk.Proofs.Tlb.Runs

/-!
# Guest pages on their way

The guest pages that are being translated belong one to one to the walkers of the first
stage that wait for them, whether they are looked up in the cache, queue, or are walked.
Whatever comes of one of them goes to a walker that waits for just this page.
-/

namespace PageWalk.Tlb

/-! ## Answers of the cache -/

/-- What every line is. Whatever the cache answers from such lines, it has looked it up
itself. -/
def anyLine : LineFacts where
  root _ := True
  middle _ := True
  sector _ := True
  superpage _ := True

private theorem brings_anyLine (refill : Refill) (params : Params) (registers : Registers) :
    refill.Brings anyLine params registers where
  root _ _ _ _ := trivial
  middle _ _ _ _ _ := trivial
  sector _ _ _ := trivial
  superpage _ _ _ := trivial

variable {readsBefore : Nat} {tlb : Tlb}

/-- A hit for a guest page is the translation of that page. -/
theorem tag_of_hit
    (stocked : tlb.cache.Stocked anyLine) {answer : CacheAnswer}
    (found : tlb.cache.answer = some answer) (hit : answer.hit = true) :
    answer.stageTwo.tag = answer.lookup.request.vpn := by
  obtain ⟨checked, _, registers, bypassed, same⟩ := stocked.piped.answer answer found
  subst same
  have isHit : checked.isHit = true := hit
  simp [Cache.answerOf, isHit, Cache.stageTwoOf]

private theorem BlockDelivered.stocked
    {id : Nat} {block : Block} {after : Tlb} (delivered : BlockDelivered tlb id block after)
    (upper : tlb.upper.Bounded) (stageTwo : tlb.stageTwo.Bounded)
    (stocked : tlb.cache.Stocked anyLine) : after.cache.Stocked anyLine := by
  cases delivered with
  | upper walk address _ waits =>
      exact stocked.refill (brings_anyLine _ _ _)
        (Nat.le_succ_of_le (upper walk (by rw [waits]; rfl)))
  | stageTwo walk address _ waits =>
      exact stocked.refill (brings_anyLine _ _ _) (stageTwo walk (by rw [waits]; rfl))
  | leaf => exact stocked.refill (brings_anyLine _ _ _) (Nat.le_refl _)

private theorem PageDelivered.cache
    {ticket : Option (Nat × Word)} {id : Nat} {page : Word} {result : StageTwoResult}
    {after : Tlb} (delivered : PageDelivered tlb ticket id page result after) :
    after.cache = tlb.cache := by
  cases delivered <;> rfl

private theorem Replied.cache
    {ticket : Option (Nat × Word)} {after : Tlb} (replied : Replied tlb ticket after) :
    after.cache = tlb.cache := by
  cases replied with
  | nothing => rfl
  | delivered _ _ delivered => exact delivered.cache

private theorem Dispatched.cache
    {after : Tlb} {dropped : List Request} (dispatched : Dispatched tlb after dropped) :
    after.cache = tlb.cache := by
  cases dispatched <;> rfl

private theorem UpperCollected.cache
    {after : Tlb} (collected : UpperCollected tlb after) : after.cache = tlb.cache := by
  cases collected <;> rfl

private theorem LeafCollected.cache
    {after : Tlb} (collected : LeafCollected tlb after) : after.cache = tlb.cache := by
  cases collected <;> rfl

private theorem ReadSent.cache
    {after : Tlb} (sent : ReadSent tlb after) : after.cache = tlb.cache := by
  cases sent with
  | nothing => rfl
  | sent _ _ told => cases told <;> rfl

private theorem PageStarted.cache
    {after : Tlb} (started : PageStarted tlb after) : after.cache = tlb.cache := by
  cases started <;> rfl

private theorem AnswerRouted.stocked
    {ticket : Option (Nat × Word)} {after : Tlb} {dropped : List Request}
    (routed : AnswerRouted tlb ticket after dropped) (stocked : tlb.cache.Stocked anyLine) :
    after.cache.Stocked anyLine := by
  cases routed with
  | nothing => exact stocked
  | probe answer _ _ routed =>
      cases routed with
      | hit _ _ delivered =>
          rw [delivered.cache]
          exact stocked.withoutAnswer answer
      | queued => exact stocked.withoutAnswer answer
  | lookup answer _ _ routed => cases routed <;> exact stocked.withoutAnswer answer

private theorem CacheFed.stocked
    {after : Tlb} (fed : CacheFed tlb after) (stocked : tlb.cache.Stocked anyLine) :
    after.cache.Stocked anyLine := by
  cases fed with
  | nothing => exact ⟨{ stocked.shelved with }, { stocked.piped with }⟩
  | upper | leaf | miss | input => exact stocked_fed stocked _

private theorem stocked_phase
    {phase : Tlb → Outcome Tlb} (member : phase ∈ phases)
    (coherent : Coherent readsBefore tlb) (stocked : tlb.cache.Stocked anyLine) :
    (phase tlb).state.cache.Stocked anyLine := by
  obtain ⟨ticket, tracked⟩ := coherent.pages
  have of_cache {after : Tlb} (same : after.cache = tlb.cache) :
      after.cache.Stocked anyLine := by
    rw [same]
    exact stocked
  simp only [phases, List.mem_cons, List.not_mem_nil, or_false] at member
  rcases member with rfl | rfl | rfl | rfl | rfl | rfl | rfl | rfl | rfl | rfl | rfl | rfl
  · cases receiveBlock_cases coherent.reads tracked.upper tracked.stageTwo with
    | nothing _ state | overflow _ _ _ _ state | stale _ _ _ _ _ _ state =>
        rw [state]
        exact stocked
    | live _ _ _ _ _ _ delivered =>
        exact delivered.stocked tracked.upper tracked.stageTwo stocked
  · exact of_cache (routeReply_cases tracked).1.cache
  · exact of_cache (dispatch_cases tlb).1.cache
  · exact (routeAnswer_cases tracked coherent.queues).1.stocked stocked
  · exact of_cache (collectUpper_cases tlb).1.cache
  · exact of_cache (collectLeaf_cases tlb).1.cache
  · rw [(tickWalkers_spec tlb).1]
    exact stocked
  · exact of_cache (sendRead_cases tlb).1.cache
  · exact of_cache (startGuestPage_cases tlb).1.cache
  · exact (feedCache_cases tlb).1.stocked stocked
  · exact stocked.tick tlb.params tlb.registers
  · exact stocked

/-! ## States between commands and between phases -/

/-- The parts of the TLB agree on what is on its way, and every answer was looked up. -/
structure Answering (tlb : Tlb) : Prop where
  coherent : ∃ readsBefore, Coherent readsBefore tlb
  stocked : tlb.cache.Stocked anyLine

theorem answering_of_create
    {params : Params} {protection : Protection} {memory : Memory}
    (created : Tlb.create params protection memory = .ok tlb)
    (unread : memory.pending = []) : tlb.Answering := by
  refine ⟨⟨_, (coherent_of_create created unread).1⟩, ?_⟩
  obtain ⟨cache, _, _, _, caching, _, _, _, _, _, same⟩ := create_spec created
  subst same
  exact (Cache.stocked_of_create caching).1

theorem Answering.phase
    {phase : Tlb → Outcome Tlb} (member : phase ∈ phases) (answering : tlb.Answering) :
    (phase tlb).state.Answering := by
  obtain ⟨⟨_, coherent⟩, stocked⟩ := answering
  exact ⟨⟨_, (coherent.phase member).coherent⟩, stocked_phase member coherent stocked⟩

/-- Some phases of a step, up to the end of the step or short of it. -/
theorem Answering.phases
    {others : List (Tlb → Outcome Tlb)} (member : ∀ phase ∈ others, phase ∈ phases)
    (answering : tlb.Answering) :
    (Outcome.forEach (fun phase tlb => phase tlb) others tlb).state.Answering :=
  Outcome.forEach_state_induction
    (fun phase here _ before => before.phase (member phase here)) answering

private theorem stocked_send
    (stocked : tlb.cache.Stocked anyLine) (request : Request) :
    ((tlb.send? request).getD { state := tlb }).state.cache.Stocked anyLine := by
  unfold send?
  split
  · cases tlb.inputs.send? request with
    | none => exact stocked
    | some inputs => exact stocked
  · exact stocked

private theorem stocked_receive (stocked : tlb.cache.Stocked anyLine) :
    ((tlb.receive?.map (·.2)).getD tlb).cache.Stocked anyLine := by
  unfold receive?
  split
  · exact stocked
  · exact stocked

private theorem stocked_install
    (stocked : tlb.cache.Stocked anyLine) (registers : Registers) :
    (Tlb.install registers tlb).state.cache.Stocked anyLine := by
  unfold Tlb.install
  dsimp only
  split
  · exact stocked.flush
  · exact stocked

private theorem stocked_write
    (stocked : tlb.cache.Stocked anyLine) (address data : Word) :
    (Tlb.write address data tlb).state.cache.Stocked anyLine := by
  unfold Tlb.write
  split
  · exact stocked
  · exact stocked

theorem Answering.perform (answering : tlb.Answering) (command : Command) :
    (tlb.perform command).state.Answering := by
  obtain ⟨⟨_, coherent⟩, stocked⟩ := answering
  refine ⟨coherent.perform command, ?_⟩
  cases command with
  | send request => exact stocked_send stocked request
  | receive => exact stocked_receive stocked
  | fence fence => exact (stocked.fence tlb.params tlb.registers fence).flush
  | install registers => exact stocked_install stocked registers
  | write address data => exact stocked_write stocked address data
  | corrupt level set way =>
      exact stocked.corrupt tlb.params level set way (fun _ _ _ _ => trivial)
        fun _ _ _ _ => trivial
  | tick => exact (Answering.phases (fun _ member => member) ⟨⟨_, coherent⟩, stocked⟩).stocked

/-! ## Guest pages and the walkers that wait for them -/

/-- The walker that asks under `id` waits for the translation of `page`. -/
def AwaitsPage (tlb : Tlb) (id : Nat) (page : Word) : Prop :=
  (id = tlb.params.upperId ∧ tlb.upper.awaitedPage? = some page) ∨
    (id ≠ tlb.params.upperId ∧ id < tlb.leaf.entries.size ∧ tlb.leaf.stageTwoBusy = true ∧
      (tlb.leaf.entry id).awaitedPage? = some (id, page))

/-- What holds of the guest pages that are being translated at every point of a run. -/
structure PagesBalanced (tlb : Tlb) : Prop where
  /-- The upper walker's is there as long as the upper walker waits for it. -/
  upper : tlb.pagesInFlight.filter (·.1 == tlb.params.upperId) =
    (tlb.upper.awaitedPage?.map fun page => (tlb.params.upperId, page)).toList
  /-- There is none of the leaf walker's while it has not asked for any. -/
  free : tlb.leaf.stageTwoBusy = false →
    tlb.pagesInFlight.filter (·.1 != tlb.params.upperId) = []
  /-- There is one of the leaf walker's once it has asked for it, and the entry that has
  asked waits for that page. -/
  busy : tlb.leaf.stageTwoBusy = true → ∃ id page,
    tlb.pagesInFlight.filter (·.1 != tlb.params.upperId) = [(id, page)] ∧
      (tlb.leaf.entry id).awaitedPage? = some (id, page)
  /-- All entries that wait for a guest page wait for one that is being translated. -/
  shared : ∀ index page, (tlb.leaf.entry index).awaitedPage? = some page →
    page ∈ tlb.pagesInFlight
  /-- The second-stage walker replies to a walker that waits for this very page. -/
  reply : ∀ reply, tlb.stageTwo.reply? = some reply →
    tlb.AwaitsPage reply.id reply.result.tag
  /-- So does the cache when it has found a guest page. -/
  hit : ∀ answer, tlb.cache.answer = some answer → answer.lookup.probe = true →
    answer.hit = true → tlb.AwaitsPage answer.lookup.id answer.stageTwo.tag
  /-- A reply never comes to a walker that does not expect it. -/
  replied : tlb.routeReply.fault = none
  /-- Nor does an answer of the cache, and what the cache has missed finds room in the
  queue. -/
  answered : tlb.routeAnswer.fault = none

private theorem eq_of_perm_toList
    {Item : Type} {items : List Item} {item : Option Item} (perm : items.Perm item.toList) :
    items = item.toList := by
  cases item with
  | none => exact perm.eq_nil
  | some item => exact List.perm_singleton.1 perm

theorem PagesTracked.awaits
    {ticket : Option (Nat × Word)} (tracked : PagesTracked tlb ticket) {id : Nat} {page : Word}
    (member : (id, page) ∈ tlb.pagesInFlight) : tlb.AwaitsPage id page := by
  have pages := (List.perm_cons_erase member).symm.trans tracked.pages
  rcases page_owner tracked.leaf tracked.entries pages with
    ⟨reader, waits, _⟩ | ⟨reader, inside, waits, _⟩
  · exact Or.inl ⟨reader, waits⟩
  · right
    rw [← tracked.entries] at inside
    have busy := tracked.leaf.busy
    rw [waits] at busy
    exact ⟨reader, inside, busy, tracked.leaf.asked _ waits⟩

/-- The reader of a guest page tells the two walkers apart. -/
private theorem PagesTracked.filters
    {ticket : Option (Nat × Word)} (tracked : PagesTracked tlb ticket) :
    tlb.pagesInFlight.filter (·.1 == tlb.params.upperId) = tlb.upperPage?.toList ∧
      tlb.pagesInFlight.filter (·.1 != tlb.params.upperId) = ticket.toList := by
  have upper (page : Nat × Word) (member : page ∈ tlb.upperPage?.toList) :
      page.1 = tlb.params.upperId := by
    obtain ⟨awaited, _, same⟩ := Option.map_eq_some_iff.1 (Option.mem_toList.1 member)
    rw [← same]
  have leaf (page : Nat × Word) (member : page ∈ ticket.toList) :
      page.1 ≠ tlb.params.upperId := by
    have inside := tracked.leaf.inside page (Option.mem_toList.1 member)
    rw [tracked.entries] at inside
    exact Nat.ne_of_lt inside
  constructor
  · apply eq_of_perm_toList
    refine (tracked.pages.filter _).trans (List.Perm.of_eq ?_)
    rw [List.filter_append, List.filter_eq_self.2 fun page member => by simp [upper page member],
      List.filter_eq_nil_iff.2 fun page member => by simp [leaf page member], List.append_nil]
  · apply eq_of_perm_toList
    refine (tracked.pages.filter _).trans (List.Perm.of_eq ?_)
    rw [List.filter_append, List.filter_eq_nil_iff.2 fun page member => by simp [upper page member],
      List.filter_eq_self.2 fun page member => by simp [leaf page member], List.nil_append]

theorem Answering.pages (answering : tlb.Answering) : tlb.PagesBalanced := by
  obtain ⟨⟨_, coherent⟩, stocked⟩ := answering
  obtain ⟨ticket, tracked⟩ := coherent.pages
  obtain ⟨upper, leaf⟩ := tracked.filters
  refine
    { upper := upper
      free := ?_
      busy := ?_
      shared := ?_
      reply := ?_
      hit := ?_
      replied := (routeReply_cases tracked).2.running
      answered := (routeAnswer_cases tracked coherent.queues).2 }
  · intro free
    rw [tracked.leaf.busy] at free
    rw [leaf]
    cases ticket with
    | none => rfl
    | some page => cases free
  · intro busy
    rw [tracked.leaf.busy] at busy
    obtain ⟨⟨id, page⟩, asked⟩ := Option.isSome_iff_exists.1 busy
    refine ⟨id, page, ?_, tracked.leaf.asked _ asked⟩
    rw [leaf, asked]
    rfl
  · intro index page waits
    apply tracked.pages.mem_iff.2
    rw [tracked.leaf.waits index page waits]
    exact List.mem_append_right _ List.mem_cons_self
  · intro reply finished
    apply tracked.awaits
    unfold pagesInFlight
    rw [StageTwoWalker.state_of_reply finished]
    exact List.mem_append_right _ List.mem_cons_self
  · intro answer found probe hit
    rw [tag_of_hit stocked found hit]
    apply tracked.awaits
    rw [pagesInFlight_of_probe found probe]
    exact List.mem_cons_self

/-- Between any two phases of any step of a run, the guest pages that are being translated
are just those that the walkers of the first stage wait for, and what comes of them is
expected. Such a step stops only for another cause. -/
theorem pages_of_run
    {params : Params} {protection : Protection} {memory : Memory}
    (created : Tlb.create params protection memory = .ok tlb)
    (unread : memory.pending = []) (commands : List Command) (count : Nat) :
    let before := (Outcome.forEach perform commands tlb).state
    let during := Outcome.forEach (fun phase tlb => phase tlb) (phases.take count) before
    PagesBalanced during.state ∧
      ∀ fault, during.fault = some fault → Excused before.params fault := by
  intro before during
  have answering : before.Answering :=
    Outcome.forEach_state_induction (fun command _ _ reached => reached.perform command)
      (answering_of_create created unread)
  have some (phase : Tlb → Outcome Tlb) (member : phase ∈ phases.take count) :
      phase ∈ phases := List.mem_of_mem_take member
  obtain ⟨_, coherent⟩ := answering.coherent
  have proceeds :=
    proceeds_of_phases (fun phase member _ coherent => coherent.phase (some phase member)) coherent
  exact ⟨(answering.phases some).pages, proceeds.excused⟩

/-- A nested lookup has asked for the page of its root table, which is looked up in the
cache. -/
theorem pages_of_small_run :
    ∃ tlb, Tlb.create .small .allowAll {} = .ok tlb ∧
      let before :=
        (Outcome.forEach perform
          ([.send { vpn := 5, mode := .nested }] ++ List.replicate 6 .tick) tlb).state
      let during := Outcome.forEach (fun phase tlb => phase tlb) (phases.take 10) before
      during.state.pagesInFlight = [(4, 0)] ∧
        PagesBalanced during.state ∧
          ∀ fault, during.fault = some fault → Excused before.params fault := by
  have unread : ({} : Memory).pending = [] := rfl
  have created : Tlb.create .small .allowAll {} = .ok _ := rfl
  exact ⟨_, created, by decide +kernel, pages_of_run created unread _ 10⟩

end PageWalk.Tlb
