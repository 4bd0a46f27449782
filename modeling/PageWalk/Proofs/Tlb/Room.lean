import PageWalk.Proofs.Tlb.Turns

/-!
# Room to park a lookup

The TLB accepts a lookup only if one more could be parked. From then on the lookup may go
round between the cache and the parked ones any number of times, beside lookups of guest
pages that nobody counts: the place that was reserved for it stays its own. So whatever
the memory does, there is always room to park it.
-/

namespace PageWalk.Tlb

/-- The configuration is the one that the TLB was created with, and the queues have room
for what may come. -/
structure Roomy (params : Params) (protection : Protection) (tlb : Tlb) : Prop where
  params : tlb.params = params
  protection : tlb.protection = protection
  queues : QueuesTracked tlb

variable {params : Params} {protection : Protection} {tlb after : Tlb}

theorem Roomy.of_same
    (roomy : Roomy params protection tlb) (same : SameQueues tlb after) :
    Roomy params protection after where
  params := same.params.trans roomy.params
  protection := same.protection.trans roomy.protection
  queues := roomy.queues.of_same same

theorem roomy_of_create
    {memory : Memory} (created : Tlb.create params protection memory = .ok tlb) :
    Roomy params protection tlb := by
  have queues := queuesTracked_of_create created
  obtain ⟨_, _, _, _, _, _, _, _, _, _, rfl⟩ := create_spec created
  exact ⟨rfl, rfl, queues⟩

/-! ## What the phases keep -/

theorem BlockTaken.same (taken : BlockTaken tlb after) : SameQueues tlb after := by
  cases taken with
  | nothing => exact .refl tlb
  | upper _ filled | stageTwo _ filled | leaf _ _ filled =>
      exact { SameQueues.refl tlb with lookups := filled.lookups }

theorem PageTaken.same
    {result : StageTwoResult} (taken : PageTaken tlb result after) : SameQueues tlb after := by
  cases taken with
  | nothing | upper | leaf => exact { SameQueues.refl tlb with }

private theorem ReplyTaken.same (taken : ReplyTaken tlb after) : SameQueues tlb after := by
  cases taken with
  | nothing => exact .refl tlb
  | taken _ _ taken => exact { taken.same with }

private theorem Dispatched.same
    {dropped : List Request} (dispatched : Dispatched tlb after dropped) :
    SameQueues tlb after := by
  cases dispatched with
  | nothing | handed => exact { SameQueues.refl tlb with }

private theorem UpperCollected.same (collected : UpperCollected tlb after) :
    SameQueues tlb after := by
  cases collected with
  | nothing | answered => exact { SameQueues.refl tlb with }

private theorem LeafCollected.same (collected : LeafCollected tlb after) :
    SameQueues tlb after := by
  cases collected with
  | nothing | answered => exact { SameQueues.refl tlb with }

private theorem ReadSent.same (sent : ReadSent tlb after) : SameQueues tlb after := by
  cases sent with
  | nothing => exact .refl tlb
  | sent _ _ told => cases told <;> exact { SameQueues.refl tlb with }

private theorem PageStarted.same (started : PageStarted tlb after) : SameQueues tlb after := by
  cases started with
  | nothing | started => exact { SameQueues.refl tlb with }

private theorem LookupRouted.roomy
    {answer : CacheAnswer} {dropped : List Request}
    (routed : LookupRouted tlb answer after dropped) (roomy : Roomy params protection tlb)
    (found : tlb.cache.answer = some answer) (lookup : answer.lookup.probe = false) :
    Roomy params protection after := by
  have queues := routed.queues roomy.queues found lookup
  cases routed with
  | hit | parked | leaf | upper => exact ⟨roomy.params, roomy.protection, queues⟩

private theorem AnswerTaken.roomy
    (taken : AnswerTaken tlb after) (roomy : Roomy params protection tlb) :
    Roomy params protection after := by
  cases taken with
  | nothing => exact roomy
  | probe answer found probe taken =>
      have popped : Roomy params protection (tlb.popped answer) :=
        ⟨roomy.params, roomy.protection, roomy.queues.popped found probe⟩
      cases taken with
      | hit counters taken => exact popped.of_same { taken.same with }
      | missed guestPages capacity =>
          exact popped.of_same { SameQueues.refl _ with pageCapacity := capacity }
  | lookup answer found lookup routed => exact routed.roomy roomy found lookup

private theorem CacheFed.roomy
    (fed : CacheFed tlb after) (roomy : Roomy params protection tlb) :
    Roomy params protection after := by
  have queues := fed.queues roomy.queues
  cases fed with
  | nothing | upper | leaf | miss | input => exact ⟨roomy.params, roomy.protection, queues⟩

theorem Roomy.phase
    {phase : Tlb → Outcome Tlb} (member : phase ∈ phases)
    (roomy : Roomy params protection tlb) :
    Roomy params protection (phase tlb).state ∧ (phase tlb).Counts := by
  have running {outcome : Outcome Tlb} (uneventful : outcome.Uneventful) : outcome.Counts :=
    Outcome.faultsIn_of_running uneventful.running
  simp only [phases, List.mem_cons, List.not_mem_nil, or_false] at member
  rcases member with rfl | rfl | rfl | rfl | rfl | rfl | rfl | rfl | rfl | rfl | rfl | rfl
  · obtain ⟨⟨memory, reads, staleReads, counters, taken⟩, counts⟩ := receiveBlock_taken tlb
    exact ⟨roomy.of_same { taken.same with }, counts⟩
  · obtain ⟨taken, counts⟩ := routeReply_taken tlb
    exact ⟨roomy.of_same taken.same, counts⟩
  · obtain ⟨dispatched, running⟩ := dispatch_cases tlb
    exact ⟨roomy.of_same dispatched.same, Outcome.faultsIn_of_running running⟩
  · -- The one phase that could miscount: it routes every answer because the queues have room.
    obtain ⟨taken, counts⟩ := routeAnswer_taken roomy.queues
    exact ⟨taken.roomy roomy, counts⟩
  · obtain ⟨collected, uneventful⟩ := collectUpper_cases tlb
    exact ⟨roomy.of_same collected.same, running uneventful⟩
  · obtain ⟨collected, uneventful⟩ := collectLeaf_cases tlb
    exact ⟨roomy.of_same collected.same, running uneventful⟩
  · obtain ⟨state, uneventful⟩ := tickWalkers_spec tlb
    rw [state]
    exact ⟨roomy.of_same { SameQueues.refl tlb with }, running uneventful⟩
  · obtain ⟨sent, uneventful⟩ := sendRead_cases tlb
    exact ⟨roomy.of_same sent.same, running uneventful⟩
  · obtain ⟨started, uneventful⟩ := startGuestPage_cases tlb
    exact ⟨roomy.of_same started.same, running uneventful⟩
  · obtain ⟨fed, uneventful⟩ := feedCache_cases tlb
    exact ⟨fed.roomy roomy, running uneventful⟩
  · have lookups := Cache.tick_lookups tlb.params tlb.registers tlb.cache
    refine ⟨roomy.of_same { SameQueues.refl tlb with lookups := lookups }, ?_⟩
    intro fault stopped
    obtain ⟨request, same⟩ := Cache.tick_fault tlb.params tlb.registers stopped
    rw [same]
    rfl
  · exact ⟨roomy.of_same { SameQueues.refl tlb with }, Outcome.faultsIn_of_running rfl⟩

theorem Roomy.acted
    (roomy : Roomy params protection tlb) (acted : Acted tlb after) :
    Roomy params protection after := by
  cases acted with
  | sent request inputs ready queued counters =>
      exact ⟨roomy.params, roomy.protection, roomy.queues.send ready queued counters⟩
  | flushed registers cache =>
      exact ⟨roomy.params, roomy.protection, roomy.queues.flush registers cache⟩
  | aside registers memory responses cache lookups =>
      exact roomy.of_same { SameQueues.refl tlb with lookups := lookups }

/-! ## What holds throughout a run -/

theorem Roomy.during
    (roomy : Roomy params protection tlb) (turns : List Turn) (count : Nat) :
    Roomy params protection (tlb.during turns count).state ∧
      (tlb.during turns count).Counts :=
  during_induction (fun _ member _ before => before.phase member)
    (fun _ _ before acted => before.acted acted) roomy turns count

/-- Every lookup in the queues and in the cache has a place of its own among the parked
ones. -/
structure HasRoom (params : Params) (point : Outcome Tlb) : Prop where
  /-- The counter tells how many lookups from outside are in the cache. -/
  counted : point.state.lookupsInCache = (unprobed point.state.cache.lookups).length
  reserved :
    point.state.inputs.size + point.state.misses.size + point.state.lookupsInCache ≤
      params.missQueueSize.toNat
  /-- A lookup that comes out of the cache can be parked. -/
  parks : ∀ answer, point.state.cache.answer = some answer → answer.lookup.probe = false →
    point.state.misses.size < params.missQueueSize.toNat ∧
      ∀ request, (point.state.park request).fault = none
  /-- Nothing stopped for want of room, or for a lookup that was not counted. -/
  counts : ∀ fault, point.fault = some fault → fault.miscounts = false

/-- Whatever is done to a new TLB in any order, whatever its memory does, between two
commands and between two phases of a step: there is room for every lookup. -/
theorem room_of_run
    {params : Params} {protection : Protection} {memory : Memory} {tlb : Tlb}
    (created : Tlb.create params protection memory = .ok tlb)
    (turns : List Turn) (count : Nat) : HasRoom params (tlb.during turns count) := by
  obtain ⟨⟨same, _, queues⟩, counts⟩ := (roomy_of_create created).during turns count
  generalize tlb.during turns count = point at same queues counts
  refine
    { counted := queues.counted
      reserved := ?_
      parks := ?_
      counts := counts }
  · rw [← same]
    exact queues.room
  · intro answer found lookup
    have room := (queues.room_of_answer found lookup).2
    refine ⟨?_, fun request => ?_⟩
    · rw [← same, ← queues.missCapacity]
      exact room
    · unfold park BoundedQueue.send?
      rw [dif_pos room]

/-- One of five lookups is being walked. The next one has just missed in the cache and is
parked, two are behind it in the cache, and the last one waits. -/
theorem room_of_small_run :
    let sends : List Turn := [5, 6, 7, 8].flatMap fun vpn =>
      [.command (.send { vpn := vpn }), .command .tick]
    ∃ tlb, Tlb.create .small .allowAll {} = .ok tlb ∧
      let point := tlb.during (sends ++ [.command (.send { vpn := 9 })]) 4
      point.state.inputs.size = 1 ∧ point.state.misses.size = 1 ∧
        point.state.lookupsInCache = 2 ∧ HasRoom .small point := by
  intro sends
  have created : Tlb.create .small .allowAll {} = .ok _ := rfl
  exact ⟨_, created, by decide +kernel, by decide +kernel, by decide +kernel,
    room_of_run created _ 4⟩

end PageWalk.Tlb
