import PageWalk.Proofs.Geometry
import PageWalk.Proofs.LeafWalker.Traffic

/-!
# What plain leaf walks answer

As long as lookups of one sector bring the same table page, nothing is protected and the
memory does not change, it does not matter which entry reads a block and when the others
come to it: every entry that has a block has the one of its own lookup.
-/

namespace PageWalk

/-- The block that holds the leaf entry of a walk. -/
def LeafRequest.block (memory : Memory) (leaf : LeafRequest) : Block :=
  memory.readBlock (entryAddress leaf.ppn (vpnIndex leaf.request.vpn 0))

/-- The answer to a walk that has read its own block and nothing else. -/
def LeafRequest.answer
    (memory : Memory) (params : Params) (registers : Registers) (leaf : LeafRequest) :
    Response where
  request := leaf.request
  stageOne :=
    StageOneResult.ofBlock leaf.request.vpn (leaf.block memory) false leaf.request.mode
      params.addressBits (registers.asid leaf.request.mode) registers.vmid
  stageTwo := none

namespace LeafWalker

/-- Walks without a second stage whose sectors have one table page each. -/
structure SingleTables (brought : LeafRequest → Prop) : Prop where
  plain : ∀ leaf, brought leaf → leaf.request.mode ≠ .nested
  table : ∀ leaf other, brought leaf → brought other →
    leaf.request.sharesSector other.request = true → leaf.ppn = other.ppn

theorem SingleTables.block
    {brought : LeafRequest → Prop} (single : SingleTables brought) (memory : Memory)
    {leaf other : LeafRequest} (leafBrought : brought leaf) (otherBrought : brought other)
    (shares : leaf.request.sharesSector other.request = true) :
    leaf.block memory = other.block memory := by
  unfold LeafRequest.block
  rw [single.table leaf other leafBrought otherBrought shares]
  exact readBlock_eq_of_sectorTag memory _ ((Request.sharesSector_iff _ _).1 shares).1

/-! ## Entries that work for a walk -/

/-- Every busy entry works for one of the walks that were brought. -/
def WorksFor (brought : LeafRequest → Prop) (works : LeafRequest → LeafEntry → Prop)
    (walker : LeafWalker) : Prop :=
  ∀ index, (walker.entry index).state ≠ .idle →
    ∃ leaf, brought leaf ∧ works leaf (walker.entry index)

namespace WorksFor

variable {brought : LeafRequest → Prop} {works : LeafRequest → LeafEntry → Prop}
  {walker after : LeafWalker} {leaf : LeafRequest} {entry : LeafEntry}

theorem of_idle (idle : ∀ index, walker.entry index = {}) : WorksFor brought works walker := by
  intro index busy
  rw [idle] at busy
  exact absurd rfl busy

theorem replaced
    {index : Nat} (all : WorksFor brought works walker)
    (replaced : Replaced walker after index entry)
    (here : entry.state ≠ .idle → ∃ leaf, brought leaf ∧ works leaf entry) :
    WorksFor brought works after := by
  intro other busy
  by_cases same : other = index
  · rw [same, replaced.here] at busy ⊢
    exact here busy
  · rw [replaced.elsewhere other same] at busy ⊢
    exact all other busy

theorem changed
    {change : LeafEntry → LeafEntry} (all : WorksFor brought works walker)
    (changed : Changed walker after change)
    (idle : ∀ entry, entry.state = .idle → (change entry).state = .idle)
    (each : ∀ index leaf, brought leaf → works leaf (walker.entry index) →
      works leaf (change (walker.entry index))) :
    WorksFor brought works after := by
  intro index busy
  rw [changed.entry] at busy ⊢
  obtain ⟨leaf, leafBrought, here⟩ := all index fun free => busy (idle _ free)
  exact ⟨leaf, leafBrought, each index leaf leafBrought here⟩

/-- An accepted walk without a second stage checks its address, copies the block of a
sibling that works for another walk, or joins a read. -/
theorem accept
    (all : WorksFor brought works walker) (params : Params) (leafBrought : brought leaf)
    (plain : leaf.request.mode ≠ .nested) (ready : walker.ready = true)
    (claim : works leaf leaf.claim)
    (copied : ∀ other entry block, brought other → works other entry →
      entry.request.sharesSector leaf.request = true → entry.block = some block →
        works leaf (leaf.claim.withBlock params block))
    (joined : ∀ owner, works leaf { leaf.claim with state := .memoryWait owner }) :
    WorksFor brought works (accept params leaf walker).state := by
  obtain ⟨index, _, _, ⟨replaced, _⟩ | ⟨entry, admitted, replaced, _⟩⟩ :=
    accept_cases params leaf ready
  · exact all.replaced replaced fun busy => absurd rfl busy
  · refine all.replaced replaced fun _ => ⟨leaf, leafBrought, ?_⟩
    cases admitted with
    | table nested => exact absurd nested plain
    | placed placed =>
        have here := entry_setEntry_self replaced.inside leaf.claim
        cases placed with
        | alone =>
            rw [here]
            exact claim
        | copied sibling block found holds =>
            have shares := found.shares
            have busy := found.busy
            rw [entry_setEntry_of_ne walker found.other] at shares busy holds
            rw [here] at shares ⊢
            obtain ⟨other, otherBrought, there⟩ := all sibling busy
            exact copied other _ block otherBrought there shares holds
        | joined sibling owner =>
            rw [here]
            exact joined owner

/-- Entries that go for their block on their own join a read of their sector. -/
theorem fireMemory
    (all : WorksFor brought works walker) (params : Params) {request : MemoryRequest}
    (wanted : walker.memoryRequest? = some request)
    (join : ∀ leaf entry owner, entry.Seeks → works leaf entry →
      works leaf { entry with state := .memoryWait owner }) :
    WorksFor brought works (fireMemory params walker).state := by
  refine all.changed (fireMemory_spec params wanted).1 ?_ fun index leaf _ here => ?_
  · intro entry idle
    have apart : joinsRead (walker.entry request.id).request entry = false := by
      simp [joinsRead, idle]
    rw [joinRead, if_neg (by rw [apart]; exact Bool.false_ne_true)]
    exact idle
  · unfold joinRead
    by_cases joins : joinsRead (walker.entry request.id).request (walker.entry index) = true
    · rw [if_pos joins]
      exact join leaf _ request.id (joinsRead_states joins).1.symm here
    · rw [if_neg joins]
      exact here

/-- The block of a read goes to all who wait for it, and all of them are of its sector. -/
theorem takeBlock
    (all : WorksFor brought works walker) (params : Params) (linked : walker.Linked) {id : Nat}
    (waits : walker.awaitsBlock id = true) {block : Block}
    (take : ∀ leaf entry, brought leaf → works leaf entry → entry.state = .memoryWait id →
      entry.request.sharesSector (walker.entry id).request = true →
        works leaf (entry.withBlock params block)) :
    WorksFor brought works (takeBlock params id block walker).state := by
  refine all.changed (takeBlock_spec params block ((awaitsBlock_iff _ _).1 waits)).1 ?_
    fun index leaf leafBrought works => ?_
  · intro entry idle
    rw [takeRead, idle]
    exact idle
  · unfold takeRead
    by_cases here : (walker.entry index).state = .memoryWait id
    · rw [if_pos (by rw [here]; exact beq_self_eq_true _)]
      exact take leaf _ leafBrought works here (linked index id here).2
    · rw [if_neg (by simpa using here)]
      exact works

/-- Nobody asks for a guest page if no walk does. -/
theorem not_wantsStageTwo
    (all : WorksFor brought works walker)
    (lone : ∀ leaf entry, works leaf entry →
      entry.state ≠ .tableRequest ∧ entry.state ≠ .lastRequest)
    {request : StageTwoRequest} (wants : walker.wantsStageTwo = true) :
    walker.stageTwoRequest? ≠ some request := by
  intro chosen
  have alone (index : Nat) (busy : (walker.entry index).state ≠ .idle) :
      (walker.entry index).state ≠ .tableRequest ∧
        (walker.entry index).state ≠ .lastRequest := by
    obtain ⟨leaf, _, here⟩ := all index busy
    exact lone leaf _ here
  obtain ⟨_, _, _, _, _, ⟨_, state, _⟩ | ⟨_, state, _⟩⟩ :=
    fireStageTwo_cases default wants chosen
  · exact (alone request.id (by rw [state]; nofun)).1 state
  · exact (alone request.id (by rw [state]; nofun)).2 state

theorem takeFinished
    (all : WorksFor brought works walker) (params : Params) {index : Nat}
    (found : walker.finishedIndex? = some index) :
    WorksFor brought works (takeFinished params walker).state :=
  all.replaced (takeFinished_spec params found).1 fun busy => absurd rfl busy

/-- In a step every entry goes on by itself. -/
theorem tick
    (all : WorksFor brought works walker) (params : Params) {protection : Protection}
    (ticks : ∀ leaf entry next, brought leaf → Ticked protection entry next →
      works leaf entry → works leaf next) :
    WorksFor brought works (tick params protection walker).state := by
  refine (tick_induction params (WorksFor brought works) ?_ (fun same _ => same) all).1
  intro index current after entry before ticked replaced
  refine before.replaced replaced fun busy => ?_
  have awake : (current.entry index).state ≠ .idle := by
    cases ticked with
    | denied _ due | passed _ due =>
        rw [due]
        nofun
    | unchecked => exact busy
  obtain ⟨leaf, leafBrought, here⟩ := before index awake
  exact ⟨leaf, leafBrought, ticks leaf _ entry leafBrought ticked here⟩

end WorksFor

/-! ## One entry -/

/-- An entry on its way through a walk without a second stage. -/
structure Serves (memory : Memory) (leaf : LeafRequest) (entry : LeafEntry) : Prop where
  request : entry.request = leaf.request
  table : entry.table = leaf.ppn
  allowed : entry.denied = false
  lone : entry.stageTwo = none
  course : entry.Seeks ∨ (∃ owner, entry.state = .memoryWait owner) ∨
    entry.state = .finished ∧ entry.block.isSome = true
  holds : ∀ block, entry.block = some block → block = leaf.block memory

variable {memory : Memory} {leaf : LeafRequest} {entry : LeafEntry}

/-- An entry that reads from the page of its table reads its own block. -/
theorem Serves.address
    (serves : Serves memory leaf entry) (plain : leaf.request.mode ≠ .nested) :
    entry.address = entryAddress leaf.ppn (vpnIndex leaf.request.vpn 0) := by
  unfold LeafEntry.address
  rw [serves.request, serves.table, if_neg plain]

theorem Serves.withBlock
    (serves : Serves memory leaf entry) (params : Params)
    (plain : leaf.request.mode ≠ .nested) :
    Serves memory leaf (entry.withBlock params (leaf.block memory)) := by
  have ended : entry.withBlock params (leaf.block memory) =
      { entry with block := some (leaf.block memory), state := .finished } := by
    unfold LeafEntry.withBlock
    dsimp only
    rw [if_neg (by simp [serves.request, plain])]
  rw [ended]
  exact
    { request := serves.request
      table := serves.table
      allowed := serves.allowed
      lone := serves.lone
      course := Or.inr (Or.inr ⟨rfl, rfl⟩)
      holds := fun _ same => (Option.some.inj same).symm }

/-- The next state of an entry that has not come to its end. -/
theorem Serves.move
    (serves : Serves memory leaf entry) {state : LeafState} {watchdog : Watchdog}
    (course : state = .addressCheck ∨ state = .memoryRequest ∨
      ∃ owner, state = .memoryWait owner) :
    Serves memory leaf { entry with state := state, watchdog := watchdog } where
  request := serves.request
  table := serves.table
  allowed := serves.allowed
  lone := serves.lone
  course := by
    rcases course with due | asking | waits
    · exact Or.inl (Or.inl due)
    · exact Or.inl (Or.inr asking)
    · exact Or.inr (Or.inl waits)
  holds := serves.holds

theorem Serves.answers
    (serves : Serves memory leaf entry) (finished : entry.state = .finished)
    (params : Params) (registers : Registers) :
    entry.response params registers = leaf.answer memory params registers := by
  have some : entry.block.isSome = true := by
    rcases serves.course with (due | asking) | ⟨owner, waits⟩ | ⟨_, some⟩
    · rw [finished] at due
      cases due
    · rw [finished] at asking
      cases asking
    · rw [finished] at waits
      cases waits
    · exact some
  obtain ⟨block, read⟩ := Option.isSome_iff_exists.1 some
  unfold LeafEntry.response LeafRequest.answer
  simp only [read, serves.request, serves.allowed, serves.lone, serves.holds block read]

/-- An accepted walk is served from the start. -/
theorem serves_claim (memory : Memory) (leaf : LeafRequest) : Serves memory leaf leaf.claim :=
  { request := rfl
    table := rfl
    allowed := rfl
    lone := rfl
    course := Or.inl (Or.inl rfl)
    holds := nofun }

/-- Nothing is asked of the second stage. -/
theorem Serves.lone_state (serves : Serves memory leaf entry) :
    entry.state ≠ .tableRequest ∧ entry.state ≠ .lastRequest := by
  rcases serves.course with (state | state) | ⟨owner, state⟩ | ⟨state, _⟩ <;>
    rw [state] <;> exact ⟨nofun, nofun⟩

private theorem Ticked.serves
    {protection : Protection} (allows : ∀ address, (protection address).accessFault = false)
    {next : LeafEntry} (ticked : Ticked protection entry next)
    (serves : Serves memory leaf entry) : Serves memory leaf next := by
  cases ticked with
  | denied watchdog due fault =>
      rw [allows] at fault
      cases fault
  | passed watchdog due => exact serves.move (Or.inr (Or.inl rfl))
  | unchecked watchdog notDue =>
      exact
        { request := serves.request
          table := serves.table
          allowed := serves.allowed
          lone := serves.lone
          course := serves.course
          holds := serves.holds }

/-! ## The walker -/

/-- Every busy entry serves one of the walks that were brought. -/
def ServesAll (brought : LeafRequest → Prop) (memory : Memory) (walker : LeafWalker) : Prop :=
  WorksFor brought (Serves memory) walker

namespace ServesAll

variable {brought : LeafRequest → Prop} {walker : LeafWalker}

/-- A sibling's block that an accepted walk copies is its own. -/
theorem accept
    (all : ServesAll brought memory walker) (single : SingleTables brought) (params : Params)
    (leafBrought : brought leaf) (ready : walker.ready = true) :
    ServesAll brought memory (LeafWalker.accept params leaf walker).state := by
  have plain := single.plain leaf leafBrought
  have claim := serves_claim memory leaf
  refine WorksFor.accept all params leafBrought plain ready claim ?_
    fun owner => claim.move (Or.inr (Or.inr ⟨owner, rfl⟩))
  intro other entry block otherBrought serves shares holds
  rw [serves.request] at shares
  rw [serves.holds block holds, single.block memory otherBrought leafBrought shares]
  exact claim.withBlock params plain

theorem fireMemory
    (all : ServesAll brought memory walker) (params : Params) {request : MemoryRequest}
    (wanted : walker.memoryRequest? = some request) :
    ServesAll brought memory (LeafWalker.fireMemory params walker).state :=
  WorksFor.fireMemory all params wanted fun _ _ owner _ serves =>
    serves.move (Or.inr (Or.inr ⟨owner, rfl⟩))

/-- The block of the lookup that a read was sent for is the block of all who wait. -/
theorem takeBlock
    (all : ServesAll brought memory walker) (single : SingleTables brought) (params : Params)
    (linked : walker.Linked) {id : Nat} (waits : walker.awaitsBlock id = true)
    (leafBrought : brought leaf) (sent : (walker.entry id).request = leaf.request) :
    ServesAll brought memory
      (LeafWalker.takeBlock params id (leaf.block memory) walker).state := by
  refine WorksFor.takeBlock all params linked waits ?_
  intro other entry otherBrought serves _ shares
  rw [serves.request, sent] at shares
  rw [← single.block memory otherBrought leafBrought shares]
  exact serves.withBlock params (single.plain other otherBrought)

theorem tick
    (all : ServesAll brought memory walker) (params : Params) {protection : Protection}
    (allows : ∀ address, (protection address).accessFault = false) :
    ServesAll brought memory (LeafWalker.tick params protection walker).state :=
  WorksFor.tick all params fun _ _ _ _ ticked serves => ticked.serves allows serves

end ServesAll

/-! ## Runs -/

namespace Traffic

variable {brought : LeafRequest → Prop}

/-- The walker serves what was brought, and the reads on their way are reads of the
blocks of brought walks. -/
structure Serving (brought : LeafRequest → Prop) (memory : Memory) (traffic : Traffic) :
    Prop where
  accounted : traffic.Accounted
  all : ServesAll brought memory traffic.walker
  reads : ∀ read ∈ traffic.reads, ∃ leaf, brought leaf ∧ read.request = leaf.request ∧
    memory.readBlock read.address = leaf.block memory
  unasked : traffic.page? = none

/-- What a move may do, if walks are plain, nothing is protected and the memory does not
change. -/
def Move.Faithful (brought : LeafRequest → Prop) (memory : Memory) : Move → Prop
  | .accept leaf => brought leaf
  | .answerRead _ image => image = memory.readBlock
  | _ => True

theorem Serving.perform
    {traffic : Traffic} (serving : traffic.Serving brought memory)
    (single : SingleTables brought) (params : Params) {protection : Protection}
    (allows : ∀ address, (protection address).accessFault = false) {move : Move}
    (faithful : Move.Faithful brought memory move) :
    (perform params protection move traffic).state.Serving brought memory := by
  have accounted := serving.accounted.perform params protection move
  obtain ⟨⟨orderly, _, owed⟩, all, reads, unasked⟩ := serving
  have moved := perform_cases params protection move traffic
  generalize Traffic.perform params protection move traffic = outcome at moved accounted ⊢
  cases moved with
  | refused same =>
      rw [same] at accounted ⊢
      exact ⟨accounted, all, reads, unasked⟩
  | accept leaf ready =>
      exact ⟨accounted, all.accept single params faithful ready, reads, unasked⟩
  | tick => exact ⟨accounted, all.tick params allows, reads, unasked⟩
  | sendRead request wanted =>
      refine ⟨accounted, all.fireMemory params wanted, ?_, unasked⟩
      intro read member
      rcases List.mem_append.1 member with old | new
      · exact reads read old
      · obtain ⟨address, asks⟩ := memoryRequest_spec wanted
        obtain ⟨leaf, leafBrought, serves⟩ := all request.id (by rw [asks]; nofun)
        rw [List.mem_singleton.1 new]
        refine ⟨leaf, leafBrought, serves.request, ?_⟩
        rw [address, serves.address (single.plain leaf leafBrought)]
        rfl
  | answerRead image read member =>
      have image : image = memory.readBlock := faithful
      obtain ⟨leaf, leafBrought, sent, block⟩ := reads read member
      obtain ⟨waits, request⟩ := owed.awaited read member
      rw [image, block] at accounted ⊢
      refine ⟨accounted, ?_, ?_, unasked⟩
      · exact all.takeBlock single params orderly.linked waits leafBrought (request.trans sent)
      · exact fun other otherMember => reads other (List.mem_of_mem_erase otherMember)
  | askStageTwo request wants chosen =>
      exact absurd chosen (WorksFor.not_wantsStageTwo all (fun _ _ => Serves.lone_state) wants)
  | answerStageTwo result request asked =>
      rw [unasked] at asked
      cases asked
  | takeFinished index found =>
      exact ⟨accounted, WorksFor.takeFinished all params found, reads, unasked⟩
  | flush => exact ⟨accounted, WorksFor.of_idle (entry_flush traffic.walker), nofun, rfl⟩

/-- Without a second stage, without protection and with one table page for each sector,
every finished walk answers with the block of its own table page and sector, whoever has
read that block. -/
theorem blocks_of_run
    (params : Params) (memory : Memory) (moves : List Move)
    (plain : ∀ leaf, .accept leaf ∈ moves →
      leaf.request.mode = .direct ∨ leaf.request.mode = .stageOne)
    (sameTable : ∀ leaf other, .accept leaf ∈ moves → .accept other ∈ moves →
      leaf.request.sharesSector other.request = true → leaf.ppn = other.ppn)
    (constant : ∀ id image, .answerRead id image ∈ moves → image = memory.readBlock)
    (registers : Registers) {index : Nat} {response : Response}
    (shown :
      (run params .allowAll moves (start params)).state.walker.finishedResponse params
          registers =
        .ok (index, response)) :
    ∃ leaf, .accept leaf ∈ moves ∧ response = leaf.answer memory params registers := by
  let brought (leaf : LeafRequest) : Prop := .accept leaf ∈ moves
  have single : SingleTables brought := by
    refine ⟨?_, sameTable⟩
    intro leaf leafBrought
    rcases plain leaf leafBrought with mode | mode <;> rw [mode] <;> nofun
  have faithful (move : Move) (member : move ∈ moves) : Move.Faithful brought memory move := by
    cases move with
    | accept leaf => exact member
    | answerRead id image => exact constant id image member
    | tick | sendRead | askStageTwo | answerStageTwo | takeFinished | flush => trivial
  have first : (start params).Serving brought memory :=
    ⟨accounted_start params, WorksFor.of_idle (entry_create params), nofun, rfl⟩
  have serving : (run params .allowAll moves (start params)).state.Serving brought memory :=
    Outcome.forEach_state_induction
      (fun move member _ reached =>
        reached.perform single params (fun _ => rfl) (faithful move member))
      first
  generalize (run params .allowAll moves (start params)).state = traffic at shown serving
  unfold finishedResponse at shown
  split at shown
  · rename_i found
    cases shown
    have finished := (finished_spec found).2
    obtain ⟨leaf, leafBrought, serves⟩ := serving.all index (by rw [finished]; nofun)
    exact ⟨leaf, leafBrought, serves.answers finished params registers⟩
  · cases shown

/-- Two lookups share a read, the later one is answered after the earlier one has left,
and a third one has come in between. -/
theorem blocks_of_small_run :
    let leaf (vpn : Word) : LeafRequest := { request := { vpn := vpn }, ppn := 3 }
    let moves : List Move :=
      [.accept (leaf 8), .accept (leaf 9), .tick, .sendRead, .accept (leaf 10),
        .answerRead 0 (Memory.readBlock {}), .takeFinished]
    ∃ response,
      (run .small .allowAll moves (start .small)).state.walker.finishedResponse .small {} =
          .ok (1, response) ∧
        ∃ leaf, .accept leaf ∈ moves ∧ response = leaf.answer {} .small {} := by
  intro leaf moves
  have walks (walk : LeafRequest) (member : .accept walk ∈ moves) :
      walk = leaf 8 ∨ walk = leaf 9 ∨ walk = leaf 10 := by
    simpa [moves] using member
  have plain (walk : LeafRequest) (member : .accept walk ∈ moves) :
      walk.request.mode = .direct ∨ walk.request.mode = .stageOne := by
    rcases walks walk member with rfl | rfl | rfl <;> exact Or.inl rfl
  have sameTable (walk other : LeafRequest) (member : .accept walk ∈ moves)
      (otherMember : .accept other ∈ moves)
      (_ : walk.request.sharesSector other.request = true) : walk.ppn = other.ppn := by
    rcases walks walk member with rfl | rfl | rfl <;>
      rcases walks other otherMember with rfl | rfl | rfl <;> rfl
  have constant (id : Nat) (image : Word → Block) (member : .answerRead id image ∈ moves) :
      image = Memory.readBlock {} := by
    have same : id = 0 ∧ image = Memory.readBlock {} := by simpa [moves] using member
    exact same.2
  have finished :
      ((run .small .allowAll moves (start .small)).state.walker.finishedResponse .small
        {}).toOption.map (·.1) = some 1 := by
    decide +kernel
  cases shown :
      (run .small .allowAll moves (start .small)).state.walker.finishedResponse .small {} with
  | error fault =>
      rw [shown] at finished
      cases finished
  | ok pair =>
      obtain ⟨index, response⟩ := pair
      rw [shown] at finished
      cases finished
      exact ⟨response, rfl, blocks_of_run .small {} moves plain sameTable constant {} shown⟩

end Traffic

end LeafWalker

end PageWalk
