import PageWalk.Proofs.Tlb.Room

/-!
# Reads of permitted addresses

A walker checks an address in one step and hands the read to the memory in a later one; the
leaf walker computes the address anew each time. In between, blocks, translations, fences
and new walks may come, due or not. None of them makes a walker ask for a read, and none
changes what the address of an entry that asks is computed from: whoever asks has had that
very address checked.
-/

namespace PageWalk

/-- The protection lets a walker read the address. -/
def Protection.Allows (protection : Protection) (address : Word) : Prop :=
  (protection address).accessFault = false

variable {allowed : Word → Prop}

/-! ## Walkers with one walk at a time -/

namespace WalkerKind

variable {Walker State Walk : Type} {kind : WalkerKind Walker State Walk} {walker : Walker}

/-- The walker asks for an allowed address, or for none. -/
def AsksWithin (kind : WalkerKind Walker State Walk) (allowed : Word → Prop) (walker : Walker) :
    Prop :=
  ∀ address, (kind.stage (kind.state walker)).asks? = some address → allowed address

theorem asksWithin_of_silent (silent : (kind.stage (kind.state walker)).asks? = none) :
    kind.AsksWithin allowed walker := by
  intro address asks
  rw [silent] at asks
  cases asks

theorem AsksWithin.takeBlock
    (asks : kind.AsksWithin allowed walker) (params : Params) (registers : Registers)
    (block : Block) :
    kind.AsksWithin allowed (kind.takeBlock params registers block walker).state := by
  unfold WalkerKind.takeBlock
  split
  · exact asksWithin_of_silent (kind.follow_silent params registers block _ _ walker)
  · exact asks

/-- What the walker hands to the memory is what it asks for, and then it asks no more. -/
theorem AsksWithin.fireMemory
    (asks : kind.AsksWithin allowed walker) {params : Params} {request : MemoryRequest}
    (wanted : kind.memoryRequest? params walker = some request) :
    allowed request.address ∧
      kind.AsksWithin allowed (kind.fireMemory params walker).state := by
  obtain ⟨walk, asked, _, waits, _⟩ := fireMemory_spec wanted
  constructor
  · refine asks request.address ?_
    rw [(kind.request_iff _ walk _).2 asked]
    rfl
  · refine asksWithin_of_silent ?_
    rw [(kind.wait_iff _ walk _).2 waits]
    rfl

/-- A step makes a walk ask for an address only if that has passed the check. -/
theorem AsksWithin.tick
    {protection : Protection} (asks : kind.AsksWithin protection.Allows walker)
    (params : Params) (registers : Registers) :
    kind.AsksWithin protection.Allows (kind.tick params registers protection walker).state := by
  obtain ⟨ticked, _⟩ := kind.tick_cases params registers protection walker
  unfold AsksWithin at asks ⊢
  generalize kind.state (kind.tick params registers protection walker).state = after
    at ticked ⊢
  cases ticked with
  | denied walk =>
      rw [kind.stage_denied]
      nofun
  | passed walk due checked =>
      rw [(kind.request_iff _ walk _).2 rfl]
      intro address asks
      cases asks
      exact checked
  | unchecked => exact asks

end WalkerKind

/-! ## The upper walker -/

namespace UpperWalker

variable {walker : UpperWalker}

theorem asksWithin_accept
    (params : Params) (registers : Registers) (request : UpperRequest)
    (ready : walker.ready = true) :
    kind.AsksWithin allowed (accept params registers request walker).state := by
  apply WalkerKind.asksWithin_of_silent
  change (accept params registers request walker).state.state.stage.asks? = none
  obtain ⟨_, ⟨_, state⟩ | ⟨_, state⟩⟩ := accept_spec params registers request ready
  · rw [state]
    rfl
  · rw [state]
    exact enterTable_silent _

private theorem Translated.silent
    {params : Params} {registers : Registers} {result : StageTwoResult}
    {before after : UpperState} (translated : Translated params registers result before after) :
    after.stage.asks? = none := by
  cases translated with
  | last | alone | guestFault | table => rfl

theorem asksWithin_takeStageTwo
    (asks : kind.AsksWithin allowed walker) (params : Params) (registers : Registers)
    (result : StageTwoResult) :
    kind.AsksWithin allowed (takeStageTwo params registers result walker).state := by
  cases waits : walker.awaitedPage? with
  | none =>
      rw [takeStageTwo_of_unawaited params registers result waits]
      exact asks
  | some page =>
      exact WalkerKind.asksWithin_of_silent
        (takeStageTwo_cases params registers result waits).1.silent

theorem asksWithin_fireStageTwo
    (params : Params) {request : StageTwoRequest}
    (wanted : walker.stageTwoRequest? params = some request) :
    kind.AsksWithin allowed (fireStageTwo params walker).state := by
  apply WalkerKind.asksWithin_of_silent
  change (fireStageTwo params walker).state.state.stage.asks? = none
  obtain ⟨_, _, _, _, walk, ⟨_, _, state⟩ | ⟨_, _, state⟩⟩ := fireStageTwo_spec params wanted
  · rw [state]
    rfl
  · rw [state]
    rfl

end UpperWalker

/-! ## The second-stage walker -/

theorem StageTwoWalker.asksWithin_accept
    {walker : StageTwoWalker} (params : Params) (registers : Registers)
    (request : StageTwoRequest) (ready : walker.ready = true) :
    kind.AsksWithin allowed (accept params registers request walker).state := by
  apply WalkerKind.asksWithin_of_silent
  change (accept params registers request walker).state.state.stage.asks? = none
  obtain ⟨_, ⟨_, state⟩ | ⟨_, state⟩⟩ := accept_cases params registers request ready
  · rw [state]
    rfl
  · rw [state]
    rfl

/-! ## The leaf walker -/

/-- The entry asks for an allowed address, or for none. -/
def LeafEntry.AsksWithin (allowed : Word → Prop) (entry : LeafEntry) : Prop :=
  entry.state = .memoryRequest → allowed entry.address

theorem LeafEntry.asksWithin_of_silent
    {entry : LeafEntry} (silent : entry.state ≠ .memoryRequest) : entry.AsksWithin allowed :=
  fun asks => absurd asks silent

theorem LeafEntry.withBlock_silent (entry : LeafEntry) (params : Params) (block : Block) :
    (entry.withBlock params block).state ≠ .memoryRequest := by
  rcases entry.withBlock_state params block with state | state
  all_goals
    rw [state]
    nofun

namespace LeafWalker

/-- Every entry asks for an allowed address, or for none. -/
def AsksWithin (allowed : Word → Prop) (walker : LeafWalker) : Prop :=
  ∀ index, (walker.entry index).AsksWithin allowed

variable {walker after : LeafWalker} {params : Params}

theorem asksWithin_of_idle (idle : ∀ index, walker.entry index = {}) :
    walker.AsksWithin allowed := by
  intro index
  rw [idle index]
  exact LeafEntry.asksWithin_of_silent nofun

theorem AsksWithin.replaced
    (asks : walker.AsksWithin allowed) {index : Nat} {entry : LeafEntry}
    (replaced : Replaced walker after index entry) (here : entry.AsksWithin allowed) :
    after.AsksWithin allowed := by
  intro tested
  by_cases same : tested = index
  · rw [same, replaced.here]
    exact here
  · rw [replaced.elsewhere tested same]
    exact asks tested

theorem AsksWithin.changed
    (asks : walker.AsksWithin allowed) {change : LeafEntry → LeafEntry}
    (changed : Changed walker after change)
    (each : ∀ entry : LeafEntry, entry.AsksWithin allowed → (change entry).AsksWithin allowed) :
    after.AsksWithin allowed := by
  intro index
  rw [changed.entry index]
  exact each _ (asks index)

/-- An entry that is placed checks its address first. -/
private theorem Placed.silent
    {index : Nat} {entry : LeafEntry} (placed : Placed params walker index entry) :
    entry.state ≠ .memoryRequest := by
  cases placed with
  | alone | joined => nofun
  | copied => exact LeafEntry.withBlock_silent _ params _

theorem AsksWithin.accept
    (asks : walker.AsksWithin allowed) (params : Params) (leaf : LeafRequest)
    (ready : walker.ready = true) :
    (accept params leaf walker).state.AsksWithin allowed := by
  obtain ⟨index, _, _, ⟨replaced, _⟩ | ⟨entry, admitted, replaced, _⟩⟩ :=
    accept_cases params leaf ready
  · exact asks.replaced replaced (LeafEntry.asksWithin_of_silent nofun)
  · refine asks.replaced replaced (LeafEntry.asksWithin_of_silent ?_)
    cases admitted with
    | table => nofun
    | placed placed => exact placed.silent

/-- What the walker hands to the memory is the address of an entry that asks. The entries
that share the read ask no more. -/
theorem AsksWithin.fireMemory
    (asks : walker.AsksWithin allowed) (params : Params) {request : MemoryRequest}
    (wanted : walker.memoryRequest? = some request) :
    allowed request.address ∧ (fireMemory params walker).state.AsksWithin allowed := by
  obtain ⟨address, chosen⟩ := memoryRequest_spec wanted
  refine ⟨?_, asks.changed (fireMemory_spec params wanted).1 fun entry asks => ?_⟩
  · rw [address]
    exact asks request.id chosen
  · unfold joinRead
    split
    · exact LeafEntry.asksWithin_of_silent nofun
    · exact asks

theorem AsksWithin.takeBlock
    (asks : walker.AsksWithin allowed) (params : Params) (id : Nat) (block : Block) :
    (takeBlock params id block walker).state.AsksWithin allowed := by
  by_cases waits : (walker.entry id).state = .memoryWait id
  · refine asks.changed (takeBlock_spec params block waits).1 fun entry asks => ?_
    unfold takeRead
    split
    · exact LeafEntry.asksWithin_of_silent (LeafEntry.withBlock_silent entry params block)
    · exact asks
  · rcases takeBlock_of_unawaited params block waits with same | same
    all_goals
      rw [same]
      exact asks

theorem AsksWithin.fireStageTwo
    (asks : walker.AsksWithin allowed) (params : Params) {request : StageTwoRequest}
    (wants : walker.wantsStageTwo = true) (wanted : walker.stageTwoRequest? = some request) :
    (fireStageTwo params walker).state.AsksWithin allowed := by
  obtain ⟨_, _, _, _, _, ⟨changed, _⟩ | ⟨changed, _⟩⟩ := fireStageTwo_cases params wants wanted
  · refine asks.changed changed fun entry asks => ?_
    unfold joinTable
    split
    · exact LeafEntry.asksWithin_of_silent nofun
    · exact asks
  · refine asks.changed changed fun entry asks => ?_
    unfold joinLast
    split
    · exact LeafEntry.asksWithin_of_silent nofun
    · exact asks

/-- A translation gives an entry another page to read from, but then the entry does not ask
yet. -/
theorem AsksWithin.takeStageTwo
    (asks : walker.AsksWithin allowed) (params : Params) (id : Nat) (result : StageTwoResult) :
    (takeStageTwo params id result walker).state.AsksWithin allowed := by
  refine (takeStageTwo_keeps params id result (AsksWithin allowed) ?_ fun _ => asks).1
  intro index current after entry asks delivered replaced
  refine asks.replaced replaced (LeafEntry.asksWithin_of_silent ?_)
  cases delivered with
  | unmapped | last => nofun
  | table _ _ placed => exact placed.silent

theorem AsksWithin.takeFinished
    (asks : walker.AsksWithin allowed) (params : Params) {index : Nat}
    (found : walker.finishedIndex? = some index) :
    (takeFinished params walker).state.AsksWithin allowed :=
  asks.replaced (takeFinished_spec params found).1 (LeafEntry.asksWithin_of_silent nofun)

/-- A step makes an entry ask only if its address has passed the check. -/
theorem AsksWithin.tick
    {protection : Protection} (asks : walker.AsksWithin protection.Allows) (params : Params) :
    (tick params protection walker).state.AsksWithin protection.Allows := by
  refine (tick_induction params (AsksWithin protection.Allows) ?_ (fun asks _ => asks) asks).1
  intro index current after entry asks ticked replaced
  refine asks.replaced replaced ?_
  cases ticked with
  | denied => exact LeafEntry.asksWithin_of_silent nofun
  | passed watchdog due checked => exact fun _ => checked
  | unchecked => exact asks index

end LeafWalker

/-! ## The walkers of a TLB -/

namespace Tlb

/-- The walkers ask for allowed addresses only. -/
structure AsksWithin (allowed : Word → Prop) (tlb : Tlb) : Prop where
  upper : UpperWalker.kind.AsksWithin allowed tlb.upper
  leaf : tlb.leaf.AsksWithin allowed
  stageTwo : StageTwoWalker.kind.AsksWithin allowed tlb.stageTwo

variable {tlb after : Tlb}

private theorem BlockTaken.asksWithin
    (taken : BlockTaken tlb after) (asks : tlb.AsksWithin allowed) :
    after.AsksWithin allowed := by
  cases taken with
  | nothing => exact asks
  | upper block =>
      refine { asks with upper := ?_ }
      rw [UpperWalker.takeBlock_eq_kind]
      exact asks.upper.takeBlock _ _ block
  | stageTwo block =>
      refine { asks with stageTwo := ?_ }
      rw [StageTwoWalker.takeBlock_eq_kind]
      exact asks.stageTwo.takeBlock _ _ block
  | leaf id block => exact { asks with leaf := asks.leaf.takeBlock _ id block }

private theorem PageTaken.asksWithin
    {result : StageTwoResult} (taken : PageTaken tlb result after)
    (asks : tlb.AsksWithin allowed) : after.AsksWithin allowed := by
  cases taken with
  | nothing => exact asks
  | upper => exact { asks with upper := UpperWalker.asksWithin_takeStageTwo asks.upper _ _ result }
  | leaf id => exact { asks with leaf := asks.leaf.takeStageTwo _ id result }

private theorem ReplyTaken.asksWithin
    (taken : ReplyTaken tlb after) (asks : tlb.AsksWithin allowed) :
    after.AsksWithin allowed := by
  cases taken with
  | nothing => exact asks
  | taken reply finished taken =>
      have idle := (StageTwoWalker.takeReply_spec tlb.params finished).1
      refine taken.asksWithin { asks with stageTwo := ?_ }
      apply WalkerKind.asksWithin_of_silent
      exact congrArg (fun state => state.stage.asks?) idle

private theorem Dispatched.asksWithin
    {dropped : List Request} (dispatched : Dispatched tlb after dropped)
    (asks : tlb.AsksWithin allowed) : after.AsksWithin allowed := by
  cases dispatched with
  | nothing => exact asks
  | handed leaf finished ready =>
      have idle := (UpperWalker.takeDispatch_spec tlb.params finished).1
      refine { asks with leaf := asks.leaf.accept _ leaf ready, upper := ?_ }
      apply WalkerKind.asksWithin_of_silent
      exact congrArg (fun state => state.stage.asks?) idle

private theorem LookupRouted.asksWithin
    {answer : CacheAnswer} {dropped : List Request}
    (routed : LookupRouted tlb answer after dropped) (asks : tlb.AsksWithin allowed) :
    after.AsksWithin allowed := by
  cases routed with
  | hit | parked => exact { asks with }
  | leaf _ _ _ ready => exact { asks with leaf := asks.leaf.accept _ _ ready }
  | upper _ _ ready => exact { asks with upper := UpperWalker.asksWithin_accept _ _ _ ready }

private theorem AnswerTaken.asksWithin
    (taken : AnswerTaken tlb after) (asks : tlb.AsksWithin allowed) :
    after.AsksWithin allowed := by
  cases taken with
  | nothing => exact asks
  | probe answer found probe taken =>
      cases taken with
      | hit counters taken => exact taken.asksWithin { asks with }
      | missed => exact { asks with }
  | lookup answer found lookup routed => exact routed.asksWithin asks

private theorem UpperCollected.asksWithin
    (collected : UpperCollected tlb after) (asks : tlb.AsksWithin allowed) :
    after.AsksWithin allowed := by
  cases collected with
  | nothing => exact asks
  | answered response finished =>
      have idle := (UpperWalker.takeResponse_spec tlb.params finished).1
      refine { asks with upper := ?_ }
      apply WalkerKind.asksWithin_of_silent
      exact congrArg (fun state => state.stage.asks?) idle

private theorem LeafCollected.asksWithin
    (collected : LeafCollected tlb after) (asks : tlb.AsksWithin allowed) :
    after.AsksWithin allowed := by
  cases collected with
  | nothing => exact asks
  | answered index found => exact { asks with leaf := asks.leaf.takeFinished _ found }

private theorem ReadSent.asksWithin
    (sent : ReadSent tlb after) (asks : tlb.AsksWithin allowed) :
    after.AsksWithin allowed := by
  cases sent with
  | nothing => exact asks
  | sent request counters told =>
      cases told with
      | upper wanted =>
          rw [UpperWalker.memoryRequest_eq_kind] at wanted
          refine { asks with upper := ?_ }
          rw [UpperWalker.fireMemory_eq_kind]
          exact (asks.upper.fireMemory wanted).2
      | leaf wanted => exact { asks with leaf := (asks.leaf.fireMemory _ wanted).2 }
      | stageTwo wanted =>
          rw [StageTwoWalker.memoryRequest_eq_kind] at wanted
          refine { asks with stageTwo := ?_ }
          rw [StageTwoWalker.fireMemory_eq_kind]
          exact (asks.stageTwo.fireMemory wanted).2

private theorem PageStarted.asksWithin
    (started : PageStarted tlb after) (asks : tlb.AsksWithin allowed) :
    after.AsksWithin allowed := by
  cases started with
  | nothing => exact asks
  | started request _ ready =>
      exact { asks with stageTwo := StageTwoWalker.asksWithin_accept _ _ request ready }

private theorem CacheFed.asksWithin
    (fed : CacheFed tlb after) (asks : tlb.AsksWithin allowed) :
    after.AsksWithin allowed := by
  cases fed with
  | nothing | miss | input => exact { asks with }
  | upper request wanted =>
      exact { asks with upper := UpperWalker.asksWithin_fireStageTwo _ wanted }
  | leaf request wants wanted =>
      exact { asks with leaf := asks.leaf.fireStageTwo _ wants wanted }

private theorem AsksWithin.acted
    (asks : tlb.AsksWithin allowed) (acted : Acted tlb after) : after.AsksWithin allowed := by
  cases acted with
  | sent | aside => exact { asks with }
  | flushed registers cache =>
      exact
        { upper := WalkerKind.asksWithin_of_silent rfl
          leaf := LeafWalker.asksWithin_of_idle (LeafWalker.entry_flush tlb.leaf)
          stageTwo := WalkerKind.asksWithin_of_silent rfl }

/-- The read that comes next is one that a walker asks for. -/
theorem AsksWithin.nextRead
    (asks : tlb.AsksWithin allowed) {request : MemoryRequest}
    (next : tlb.nextRead? = some request) : allowed request.address := by
  unfold nextRead? at next
  rcases Option.or_eq_some_iff.1 next with first | ⟨_, wanted⟩
  · rcases Option.or_eq_some_iff.1 first with wanted | ⟨_, wanted⟩
    · rw [UpperWalker.memoryRequest_eq_kind] at wanted
      exact (asks.upper.fireMemory wanted).1
    · exact (asks.leaf.fireMemory tlb.params wanted).1
  · rw [StageTwoWalker.memoryRequest_eq_kind] at wanted
    exact (asks.stageTwo.fireMemory wanted).1

/-! ## Runs -/

/-- The walkers ask only for what the protection allows, and there is room for every
lookup. -/
structure Guarded (params : Params) (protection : Protection) (tlb : Tlb) : Prop where
  roomy : Roomy params protection tlb
  asks : tlb.AsksWithin protection.Allows

variable {params : Params} {protection : Protection}

theorem guarded_of_create
    {memory : Memory} (created : Tlb.create params protection memory = .ok tlb) :
    Guarded params protection tlb := by
  have roomy := roomy_of_create created
  obtain ⟨_, _, _, _, _, _, _, _, _, _, rfl⟩ := create_spec created
  refine ⟨roomy, ?_⟩
  exact
    { upper := WalkerKind.asksWithin_of_silent rfl
      leaf := LeafWalker.asksWithin_of_idle (LeafWalker.entry_create params)
      stageTwo := WalkerKind.asksWithin_of_silent rfl }

theorem Guarded.phase
    {phase : Tlb → Outcome Tlb} (member : phase ∈ phases)
    (guarded : Guarded params protection tlb) :
    Guarded params protection (phase tlb).state ∧ (phase tlb).Counts := by
  obtain ⟨next, counts⟩ := guarded.roomy.phase member
  refine ⟨⟨next, ?_⟩, counts⟩
  have asks := guarded.asks
  simp only [phases, List.mem_cons, List.not_mem_nil, or_false] at member
  rcases member with rfl | rfl | rfl | rfl | rfl | rfl | rfl | rfl | rfl | rfl | rfl | rfl
  · obtain ⟨⟨memory, reads, staleReads, counters, taken⟩, _⟩ := receiveBlock_taken tlb
    exact taken.asksWithin { asks with }
  · exact (routeReply_taken tlb).1.asksWithin asks
  · exact (dispatch_cases tlb).1.asksWithin asks
  · exact (routeAnswer_taken guarded.roomy.queues).1.asksWithin asks
  · exact (collectUpper_cases tlb).1.asksWithin asks
  · exact (collectLeaf_cases tlb).1.asksWithin asks
  · -- Only here does a walker begin to ask, and it has asked the protection of the run first.
    rw [(tickWalkers_spec tlb).1, guarded.roomy.protection, UpperWalker.tick_eq_kind,
      StageTwoWalker.tick_eq_kind]
    exact
      { upper := asks.upper.tick _ _
        leaf := asks.leaf.tick _
        stageTwo := asks.stageTwo.tick _ _ }
  · exact (sendRead_cases tlb).1.asksWithin asks
  · exact (startGuestPage_cases tlb).1.asksWithin asks
  · exact (feedCache_cases tlb).1.asksWithin asks
  · exact { asks with }
  · exact { asks with }

private theorem Guarded.acted
    (guarded : Guarded params protection tlb) (acted : Acted tlb after) :
    Guarded params protection after :=
  ⟨guarded.roomy.acted acted, guarded.asks.acted acted⟩

theorem Guarded.turn (guarded : Guarded params protection tlb) (change : Turn) :
    Guarded params protection (tlb.turn change).state :=
  (turn_keeps (fun _ member _ before => before.phase member)
    (fun _ _ before acted => before.acted acted) guarded change).1

theorem Guarded.during
    (guarded : Guarded params protection tlb) (turns : List Turn) (count : Nat) :
    Guarded params protection (tlb.during turns count).state :=
  (during_induction (fun _ member _ before => before.phase member)
    (fun _ _ before acted => before.acted acted) guarded turns count).1

/-! ## The reads of a run -/

/-- The read that a step hands to the memory, whether that takes it or not. -/
def handsOver? (tlb : Tlb) : Option MemoryRequest :=
  let point := tlb.during [] 7
  if point.fault.isSome then none else point.state.nextRead?

/-- In a step a read is chosen and handed over once, after seven phases. -/
theorem tick_eq_sendRead (tlb : Tlb) :
    tlb.tick =
      (tlb.during [] 7).andThen fun tlb =>
        tlb.sendRead.andThen
          (Outcome.forEach (fun phase tlb => phase tlb) (phases.drop 8)) := by
  have parts : phases = phases.take 7 ++ sendRead :: phases.drop 8 := rfl
  have start : tlb.during [] 7 =
      Outcome.forEach (fun phase tlb => phase tlb) (phases.take 7) tlb :=
    Outcome.andThen_of_running _ rfl
  rw [start, tick, parts, Outcome.forEach_append]
  rfl

/-- The reads that a turn hands to the memory. -/
def handsOver (tlb : Tlb) : Turn → List MemoryRequest
  | .command .tick => tlb.handsOver?.toList
  | _ => []

/-- The reads that a run hands to the memory, oldest first. -/
def handedOver (tlb : Tlb) : List Turn → List MemoryRequest
  | [] => []
  | change :: turns =>
      let after := tlb.turn change
      tlb.handsOver change ++ if after.fault.isSome then [] else after.state.handedOver turns

private theorem Guarded.allows
    (guarded : Guarded params protection tlb) {change : Turn} {request : MemoryRequest}
    (member : request ∈ tlb.handsOver change) : protection.Allows request.address := by
  unfold handsOver at member
  split at member
  · have handed := Option.mem_toList.1 member
    unfold handsOver? at handed
    dsimp only at handed
    split at handed
    · cases handed
    · exact (guarded.during [] 7).asks.nextRead handed
  · cases member

/-- Whatever is done to a new TLB in any order and whatever its memory does: no walker hands
a read to the memory, for itself or for others, at an address that the protection denies. -/
theorem permittedReads_of_run
    {params : Params} {protection : Protection} {memory : Memory} {tlb : Tlb}
    (created : Tlb.create params protection memory = .ok tlb) (turns : List Turn) :
    ∀ request ∈ tlb.handedOver turns, (protection request.address).accessFault = false := by
  have guarded := guarded_of_create created
  clear created
  -- The invariant goes along with the state that the first turn leaves.
  induction turns generalizing tlb with
  | nil => exact fun request member => nomatch member
  | cons change turns inductionHypothesis =>
      intro request member
      rcases List.mem_append.1 member with here | later
      · exact guarded.allows here
      · split at later
        · cases later
        · exact inductionHypothesis (guarded.turn change) request later

/-- The root table and the next one are read. The leaf table lies where reads are denied: it
is not read, and the answer is an access fault. -/
theorem permittedReads_of_small_run :
    let memory : Memory :=
      [(0x1000, 0x801), (0x2000, 0xc01)].foldl
        (fun memory (address, word) => memory.setWord address word) {}
    let ranges : ProtectedRanges := { denied := [⟨0x3000, 0x4000⟩] }
    let turns : List Turn :=
      .command (.install { satp := { ppn := 1, changed := true } }) ::
        .command (.send { vpn := 5 }) :: List.replicate 25 (.command .tick)
    ∃ tlb, Tlb.create .small ranges.check memory = .ok tlb ∧
      (tlb.during turns 0).state.responses.map (fun response =>
          response.stageOne.selected.accessFault) = [true] ∧
      (tlb.handedOver turns).map (fun request => request.address) = [0x1000, 0x2000] ∧
      ∀ request ∈ tlb.handedOver turns,
        (ranges.check request.address).accessFault = false := by
  intro memory ranges turns
  have created : Tlb.create .small ranges.check memory = .ok _ := rfl
  exact ⟨_, created, by decide +kernel, by decide +kernel,
    permittedReads_of_run created turns⟩

end Tlb

end PageWalk
