import PageWalk.Proofs.WalkerKind
import PageWalk.UpperWalker

/-!
# Operations on the upper walker

What every operation of the upper walker does to the lookup that it walks, to the
guest page and to the block that it waits for. A walk never leaves the two upper
levels, and an operation that is due is uneventful.
-/

namespace PageWalk

/-- The walk that the walker is in the middle of. -/
def UpperState.walk? : UpperState → Option UpperWalk
  | .idle | .respond _ => none
  | .tableRequest walk | .tableWait walk | .addressCheck walk | .memoryRequest walk _
  | .memoryWait walk _ | .lastRequest walk | .lastWait walk | .dispatch walk => some walk

def UpperState.stage : UpperState → ReadStage UpperWalk
  | .addressCheck walk => .check walk
  | .memoryRequest walk address => .request walk address
  | .memoryWait walk address => .wait walk address
  | .idle | .tableRequest _ | .tableWait _ | .lastRequest _ | .lastWait _ | .dispatch _
  | .respond _ => .none

namespace UpperWalker

def awaitedAddress? (walker : UpperWalker) : Option Word :=
  match walker.state with
  | .memoryWait _ address => some address
  | _ => none

/-- The walk is in the root table or in a table of level 1. -/
def Bounded (walker : UpperWalker) : Prop :=
  ∀ walk, walker.state.walk? = some walk → walk.level ≤ 1

/-- Nothing changed that the other units of the walk depend on. -/
structure Alike (walker after : UpperWalker) : Prop where
  request : after.state.request = walker.state.request
  page : after.awaitedPage? = walker.awaitedPage?
  address : after.awaitedAddress? = walker.awaitedAddress?
  dispatch : after.dispatch? = walker.dispatch?

/-- The lookup stays, and the walker waits for nothing. -/
structure Moved (walker after : UpperWalker) : Prop where
  request : after.state.request = walker.state.request
  page : after.awaitedPage? = none
  address : after.awaitedAddress? = none
  bounded : after.Bounded

/-! ## Waiting -/

theorem state_of_awaitedPage
    {walker : UpperWalker} {page : Word} (waits : walker.awaitedPage? = some page) :
    ∃ walk, (walker.state = .tableWait walk ∧ walk.table = page) ∨
      (walker.state = .lastWait walk ∧ walk.lastPage = page) := by
  unfold awaitedPage? at waits
  split at waits
  · rename_i walk state
    cases waits
    exact ⟨walk, Or.inl ⟨state, rfl⟩⟩
  · rename_i walk state
    cases waits
    exact ⟨walk, Or.inr ⟨state, rfl⟩⟩
  · cases waits

/-- A walker that waits for a table page waits for that of its walk. -/
theorem table_of_awaitedPage
    {walker : UpperWalker} {page : Word} (waits : walker.awaitedPage? = some page)
    {walk : UpperWalk} (state : walker.state = .tableWait walk) : walk.table = page := by
  obtain ⟨other, ⟨same, here⟩ | ⟨same, _⟩⟩ := state_of_awaitedPage waits
  · cases state.symm.trans same
    exact here
  · cases state.symm.trans same

theorem lastPage_of_awaitedPage
    {walker : UpperWalker} {page : Word} (waits : walker.awaitedPage? = some page)
    {walk : UpperWalk} (state : walker.state = .lastWait walk) : walk.lastPage = page := by
  obtain ⟨other, ⟨same, _⟩ | ⟨same, here⟩⟩ := state_of_awaitedPage waits
  · cases state.symm.trans same
  · cases state.symm.trans same
    exact here

theorem state_of_response
    {walker : UpperWalker} {response : Response} (finished : walker.response? = some response) :
    walker.state = .respond response := by
  unfold response? at finished
  split at finished
  · rename_i found state
    cases finished
    exact state
  · cases finished

theorem state_of_dispatch
    {walker : UpperWalker} {leaf : LeafRequest} (finished : walker.dispatch? = some leaf) :
    ∃ walk, walker.state = .dispatch walk ∧ leaf = ⟨walk.request, walk.pte.ppn⟩ := by
  unfold dispatch? at finished
  split at finished
  · rename_i walk state
    cases finished
    exact ⟨walk, state, rfl⟩
  · cases finished

theorem awaitedAddress_of_memoryWait
    {walker : UpperWalker} {walk : UpperWalk} {address : Word}
    (state : walker.state = .memoryWait walk address) :
    walker.awaitedAddress? = some address := by
  simp only [awaitedAddress?, state]

/-- A walker with a response waits for nothing. -/
theorem quiet_of_response
    {walker : UpperWalker} {response : Response} (finished : walker.response? = some response) :
    walker.state.request = some response.request ∧ walker.awaitedPage? = none ∧
      walker.awaitedAddress? = none := by
  have state := state_of_response finished
  exact ⟨by rw [state]; rfl, by simp [awaitedPage?, state], by simp [awaitedAddress?, state]⟩

/-- A walker with a leaf walk to hand on waits for nothing. -/
theorem quiet_of_dispatch
    {walker : UpperWalker} {leaf : LeafRequest} (finished : walker.dispatch? = some leaf) :
    walker.state.request = some leaf.request ∧ walker.awaitedPage? = none ∧
      walker.awaitedAddress? = none := by
  obtain ⟨walk, state, same⟩ := state_of_dispatch finished
  exact ⟨by rw [state, same]; rfl, by simp [awaitedPage?, state],
    by simp [awaitedAddress?, state]⟩

/-! ## Ends of a walk -/

/-- A walker with a response for the lookup of its walk. -/
theorem moved_of_respond
    {walker after : UpperWalker} {walk : UpperWalk} {response : Response}
    (before : walker.state.request = some walk.request)
    (state : after.state = .respond response) (same : response.request = walk.request) :
    Moved walker after where
  request := by
    rw [state, before, ← same]
    rfl
  page := by simp [awaitedPage?, state]
  address := by simp [awaitedAddress?, state]
  bounded := by
    intro current inside
    rw [state] at inside
    cases inside

/-! ## Tables and entries -/

theorem enterTable_cases (walk : UpperWalk) :
    (walk.request.mode = .nested ∧ walk.enterTable = .tableRequest walk) ∨
      (walk.request.mode ≠ .nested ∧ walk.enterTable = .addressCheck walk) := by
  unfold UpperWalk.enterTable
  by_cases nested : walk.request.mode = .nested
  · rw [if_pos nested]
    exact Or.inl ⟨nested, rfl⟩
  · rw [if_neg nested]
    exact Or.inr ⟨nested, rfl⟩

/-- The ways on from an entry that a walk has read. -/
inductive Followed (params : Params) (registers : Registers) (walk : UpperWalk) :
    UpperState → Prop
  | accessFault (outside : walk.request.mode.accessFault walk.pte params.addressBits = true) :
      Followed params registers walk (.respond (walk.response registers false true none))
  | pageFault (inside : walk.request.mode.accessFault walk.pte params.addressBits = false)
      (fault : walk.pte.pageFaultAt walk.level = true) :
      Followed params registers walk (.respond (walk.response registers true false none))
  | superpage (inside : walk.request.mode.accessFault walk.pte params.addressBits = false)
      (sound : walk.pte.pageFaultAt walk.level = false) (leaf : walk.pte.isLeaf = true)
      (nested : walk.request.mode = .nested) :
      Followed params registers walk (.lastRequest walk)
  | leaf (inside : walk.request.mode.accessFault walk.pte params.addressBits = false)
      (sound : walk.pte.pageFaultAt walk.level = false) (leaf : walk.pte.isLeaf = true)
      (plain : walk.request.mode ≠ .nested) :
      Followed params registers walk (.respond (walk.response registers false false none))
  | dispatch (inside : walk.request.mode.accessFault walk.pte params.addressBits = false)
      (sound : walk.pte.pageFaultAt walk.level = false) (pointer : walk.pte.isLeaf = false)
      (last : walk.level = 1) :
      Followed params registers walk (.dispatch walk)
  | descend (inside : walk.request.mode.accessFault walk.pte params.addressBits = false)
      (sound : walk.pte.pageFaultAt walk.level = false) (pointer : walk.pte.isLeaf = false)
      (upper : walk.level ≠ 1) :
      Followed params registers walk
        (UpperWalk.enterTable
          { walk with
            level := walk.level + 1
            table := walk.pte.ppn
            host := walk.pte.ppn })

theorem follow_cases
    (params : Params) (registers : Registers) (walk : UpperWalk) (walker : UpperWalker) :
    Followed params registers walk (follow params registers walk walker).state.state ∧
      (follow params registers walk walker).Uneventful := by
  unfold follow
  dsimp only
  split
  · rename_i outside
    exact ⟨.accessFault outside, rfl, rfl⟩
  · rename_i inside
    have inside := Bool.eq_false_iff.2 inside
    split
    · rename_i fault
      exact ⟨.pageFault inside fault, rfl, rfl⟩
    · rename_i sound
      have sound := Bool.eq_false_iff.2 sound
      split
      · rename_i leaf
        split
        · rename_i nested
          exact ⟨.superpage inside sound leaf nested, rfl, rfl⟩
        · rename_i plain
          exact ⟨.leaf inside sound leaf plain, rfl, rfl⟩
      · rename_i pointer
        have pointer := Bool.eq_false_iff.2 pointer
        split
        · rename_i last
          exact ⟨.dispatch inside sound pointer last, rfl, rfl⟩
        · rename_i upper
          exact ⟨.descend inside sound pointer upper, rfl, rfl⟩

/-- A walk that goes on checks the address of its next table first. -/
theorem enterTable_silent (walk : UpperWalk) : walk.enterTable.stage.asks? = none := by
  rcases enterTable_cases walk with ⟨_, enters⟩ | ⟨_, enters⟩
  · rw [enters]
    rfl
  · rw [enters]
    rfl

private theorem Followed.silent
    {params : Params} {registers : Registers} {walk : UpperWalk} {after : UpperState}
    (followed : Followed params registers walk after) : after.stage.asks? = none := by
  cases followed with
  | accessFault | pageFault | superpage | leaf | dispatch => rfl
  | descend => exact enterTable_silent _

/-! ## A walker with one walk at a time -/

/-- The upper walker among the walkers with one walk at a time. -/
def kind : WalkerKind UpperWalker UpperState UpperWalk where
  name := Params.upperName
  reader := Params.upperId
  core walker :=
    { cycle := walker.cycle
      state := walker.state
      watchdog := walker.watchdog
      memoryRequests := walker.memoryRequests
      accessFaults := walker.accessFaults
      timeouts := walker.timeouts }
  withCore walker core :=
    { walker with
      cycle := core.cycle
      state := core.state
      watchdog := core.watchdog
      memoryRequests := core.memoryRequests
      accessFaults := core.accessFaults
      timeouts := core.timeouts }
  isIdle state := state == .idle
  stage := UpperState.stage
  check := .addressCheck
  request := .memoryRequest
  wait := .memoryWait
  denied registers walk := .respond (walk.response registers false true none)
  address := UpperWalk.address
  event
    | .denied address => .upper (.denied address)
    | .finished registers walk => .upper (.finished (walk.response registers false true none))
    | .overdue state steps => .upper (.overdue (state.request.getD {}) steps)
  follow params registers block walk address walker :=
    let walk := { walk with pte := ⟨entryAt block address⟩ }
    Outcome.andThen
      { state := walker, notes := [walker.note params (.read walk.level walk.pte)] }
      (follow params registers walk)
  core_withCore _ _ := rfl
  check_iff state walk := by cases state <;> simp [UpperState.stage]
  request_iff state walk address := by cases state <;> simp [UpperState.stage]
  wait_iff state walk address := by cases state <;> simp [UpperState.stage]
  idle_stage state idle := by
    rw [eq_of_beq idle]
    rfl
  stage_denied _ _ := rfl
  busy_denied _ _ := rfl
  event_keeps _ _ report := by cases report <;> rfl
  event_overdue _ _ report := by cases report <;> rfl
  follow_uneventful params registers block walk address walker :=
    Outcome.Uneventful.andThen ⟨rfl, rfl⟩ (follow_cases params registers _ walker).2
  follow_silent params registers block walk address walker :=
    (follow_cases params registers _ walker).1.silent

theorem awaitedAddress_eq_kind (walker : UpperWalker) :
    walker.awaitedAddress? = kind.awaitedAddress? walker := by
  unfold awaitedAddress? WalkerKind.awaitedAddress? WalkerKind.state
  cases state : walker.state <;> simp only [kind, UpperState.stage, state]

theorem memoryRequest_eq_kind (params : Params) (walker : UpperWalker) :
    walker.memoryRequest? params = kind.memoryRequest? params walker := by
  unfold memoryRequest? WalkerKind.memoryRequest? WalkerKind.state
  cases state : walker.state <;> simp only [kind, UpperState.stage, state]

theorem fireMemory_eq_kind (params : Params) (walker : UpperWalker) :
    fireMemory params walker = kind.fireMemory params walker := by
  unfold fireMemory WalkerKind.fireMemory WalkerKind.state
  cases state : walker.state <;> simp only [kind, UpperState.stage, state] <;> rfl

theorem takeBlock_eq_kind
    (params : Params) (registers : Registers) (block : Block) (walker : UpperWalker) :
    takeBlock params registers block walker =
      kind.takeBlock params registers block walker := by
  unfold takeBlock WalkerKind.takeBlock WalkerKind.state
  cases state : walker.state <;> simp only [kind, UpperState.stage, state] <;> rfl

theorem tick_eq_kind
    (params : Params) (registers : Registers) (protection : Protection)
    (walker : UpperWalker) :
    tick params registers protection walker =
      kind.tick params registers protection walker := by
  have checked :
      checkAddress params registers protection walker =
        kind.checkAddress params registers protection walker := by
    unfold checkAddress WalkerKind.checkAddress WalkerKind.state
    cases state : walker.state with
    | addressCheck walk =>
        simp only [kind, UpperState.stage, state]
        rfl
    | _ => simp only [kind, UpperState.stage, state]
  unfold tick
  rw [checked]
  rfl

/-! ## Accepting a walk -/

theorem start_request (registers : Registers) (request : UpperRequest) :
    (UpperWalk.start registers request).request = request.request := by
  unfold UpperWalk.start
  dsimp only
  split
  · rfl
  · split <;> rfl

theorem start_level (registers : Registers) (request : UpperRequest) :
    (UpperWalk.start registers request).level ≤ 1 := by
  unfold UpperWalk.start
  dsimp only
  split
  · exact Nat.zero_le 1
  · split
    · exact Nat.le_refl 1
    · exact Nat.zero_le 1

/-- A ready walker takes a walk, and its first table page is not yet known to be
translated. -/
theorem accept_spec
    (params : Params) (registers : Registers) (request : UpperRequest) {walker : UpperWalker}
    (ready : walker.ready = true) :
    (accept params registers request walker).Uneventful ∧
      (((UpperWalk.start registers request).request.mode = .stageTwo ∧
          (accept params registers request walker).state.state =
            .tableRequest (UpperWalk.start registers request)) ∨
        ((UpperWalk.start registers request).request.mode ≠ .stageTwo ∧
          (accept params registers request walker).state.state =
            (UpperWalk.start registers request).enterTable)) := by
  unfold accept
  simp only [ready, if_true]
  by_cases second : (UpperWalk.start registers request).request.mode = .stageTwo
  · rw [if_pos second]
    exact ⟨⟨rfl, rfl⟩, Or.inl ⟨second, rfl⟩⟩
  · rw [if_neg second]
    exact ⟨⟨rfl, rfl⟩, Or.inr ⟨second, rfl⟩⟩

theorem accept_moved
    (params : Params) (registers : Registers) (request : UpperRequest) {walker : UpperWalker}
    (ready : walker.ready = true) :
    (accept params registers request walker).state.state.request = some request.request ∧
      (accept params registers request walker).state.awaitedPage? = none ∧
      (accept params registers request walker).state.awaitedAddress? = none ∧
      (accept params registers request walker).state.dispatch? = none ∧
      (accept params registers request walker).state.Bounded := by
  have level := start_level registers request
  have lookup := start_request registers request
  have either :
      (accept params registers request walker).state.state =
          .tableRequest (UpperWalk.start registers request) ∨
        (accept params registers request walker).state.state =
          .addressCheck (UpperWalk.start registers request) := by
    obtain ⟨_, ⟨_, state⟩ | ⟨_, state⟩⟩ := accept_spec params registers request ready
    · exact Or.inl state
    · rcases enterTable_cases (UpperWalk.start registers request) with ⟨_, enters⟩ | ⟨_, enters⟩
      · exact Or.inl (state.trans enters)
      · exact Or.inr (state.trans enters)
  rcases either with state | state
  all_goals
    refine ⟨?_, ?_, ?_, ?_, ?_⟩
    · rw [state, ← lookup]
      rfl
    · simp [awaitedPage?, state]
    · simp [awaitedAddress?, state]
    · simp [dispatch?, state]
    · intro walk inside
      rw [state] at inside
      cases inside
      exact level

/-! ## Handing over -/

theorem takeResponse_spec
    (params : Params) {walker : UpperWalker} {response : Response}
    (finished : walker.response? = some response) :
    (takeResponse params walker).state.state = .idle ∧
      (takeResponse params walker).Uneventful := by
  unfold takeResponse
  simp only [finished]
  exact ⟨trivial, rfl, rfl⟩

theorem takeDispatch_spec
    (params : Params) {walker : UpperWalker} {leaf : LeafRequest}
    (finished : walker.dispatch? = some leaf) :
    (takeDispatch params walker).state.state = .idle ∧
      (takeDispatch params walker).Uneventful := by
  unfold takeDispatch
  simp only [finished]
  exact ⟨trivial, rfl, rfl⟩

/-- An idle walker holds no lookup and waits for nothing. -/
theorem moved_of_idle {walker : UpperWalker} (idle : walker.state = .idle) :
    walker.state.request = none ∧ walker.awaitedPage? = none ∧
      walker.awaitedAddress? = none ∧ walker.dispatch? = none ∧ walker.Bounded := by
  refine ⟨by rw [idle]; rfl, by simp [awaitedPage?, idle], by simp [awaitedAddress?, idle],
    by simp [dispatch?, idle], ?_⟩
  intro walk inside
  rw [idle] at inside
  cases inside

theorem state_of_ready {walker : UpperWalker} (ready : walker.ready = true) :
    walker.state = .idle := by
  unfold UpperWalker.ready UpperWalker.isIdle at ready
  exact eq_of_beq ready

/-! ## Memory -/

theorem state_of_awaitedAddress
    {walker : UpperWalker} {address : Word} (waits : walker.awaitedAddress? = some address) :
    ∃ walk, walker.state = .memoryWait walk address := by
  rw [awaitedAddress_eq_kind] at waits
  exact WalkerKind.state_of_awaitedAddress waits

theorem fireMemory_spec
    (params : Params) {walker : UpperWalker} {request : MemoryRequest}
    (wanted : walker.memoryRequest? params = some request) :
    ∃ walk, walker.state = .memoryRequest walk request.address ∧
      request.id = params.upperId ∧
      (fireMemory params walker).state.state = .memoryWait walk request.address ∧
      (fireMemory params walker).Uneventful := by
  rw [memoryRequest_eq_kind] at wanted
  rw [fireMemory_eq_kind]
  exact WalkerKind.fireMemory_spec wanted

/-- A walker waits for the block of the read that it has sent. -/
theorem fireMemory_waits
    (params : Params) {walker : UpperWalker} {request : MemoryRequest}
    (wanted : walker.memoryRequest? params = some request) :
    walker.awaitedAddress? = none ∧
      (fireMemory params walker).state.awaitedAddress? = some request.address := by
  rw [memoryRequest_eq_kind] at wanted
  rw [awaitedAddress_eq_kind, awaitedAddress_eq_kind, fireMemory_eq_kind]
  exact WalkerKind.fireMemory_waits wanted

/-- A read that is sent changes only what the walker waits for. -/
theorem fireMemory_keeps
    (params : Params) {walker : UpperWalker} {request : MemoryRequest}
    (wanted : walker.memoryRequest? params = some request) (bounded : walker.Bounded) :
    (fireMemory params walker).state.state.request = walker.state.request ∧
      (fireMemory params walker).state.awaitedPage? = walker.awaitedPage? ∧
      (fireMemory params walker).state.dispatch? = none ∧
      (fireMemory params walker).state.Bounded := by
  obtain ⟨walk, state, _, next, _⟩ := fireMemory_spec params wanted
  refine ⟨by rw [state, next]; rfl, by simp [awaitedPage?, state, next],
    by simp [dispatch?, next], ?_⟩
  intro current found
  rw [next] at found
  exact bounded current (by rw [state]; exact found)

theorem refill_of_memoryWait
    {walker : UpperWalker} {walk : UpperWalk} {address : Word}
    (state : walker.state = .memoryWait walk address) (block : Block) :
    walker.refill? block = some (walk.refill address block) := by
  simp only [refill?, state]

/-- With the block that it waits for, the walker goes on from the entry of its walk. -/
theorem takeBlock_cases
    (params : Params) (registers : Registers) (block : Block) {walker : UpperWalker}
    {walk : UpperWalk} {address : Word} (state : walker.state = .memoryWait walk address) :
    Followed params registers { walk with pte := ⟨entryAt block address⟩ }
        (takeBlock params registers block walker).state.state ∧
      (takeBlock params registers block walker).Uneventful := by
  unfold takeBlock
  simp only [state]
  obtain ⟨followed, uneventful⟩ :=
    follow_cases params registers { walk with pte := ⟨entryAt block address⟩ } walker
  exact ⟨followed, Outcome.Uneventful.andThen ⟨rfl, rfl⟩ uneventful⟩

theorem takeBlock_moved
    (params : Params) (registers : Registers) (block : Block) {walker : UpperWalker}
    {address : Word} (waits : walker.awaitedAddress? = some address)
    (bounded : walker.Bounded) :
    Moved walker (takeBlock params registers block walker).state := by
  obtain ⟨walk, state⟩ := state_of_awaitedAddress waits
  have level : walk.level ≤ 1 := bounded walk (by rw [state]; rfl)
  have request : walker.state.request = some walk.request := by
    rw [state]
    rfl
  obtain ⟨followed, _⟩ := takeBlock_cases params registers block state
  generalize reached : (takeBlock params registers block walker).state = after at followed ⊢
  generalize next : after.state = following at followed
  have inWalk {current : UpperWalk}
      (is : following = .lastRequest current ∨ following = .dispatch current ∨
        following = .tableRequest current ∨ following = .addressCheck current)
      (same : current.request = walk.request) (small : current.level ≤ 1) :
      Moved walker after := by
    rcases is with is | is | is | is
    all_goals
      refine ⟨?_, ?_, ?_, ?_⟩
      · rw [next, is, request, ← same]
        rfl
      · simp [awaitedPage?, next, is]
      · simp [awaitedAddress?, next, is]
      · intro inner inside
        rw [next, is] at inside
        cases inside
        exact small
  cases followed with
  | accessFault | pageFault | leaf => exact moved_of_respond request next rfl
  | superpage => exact inWalk (Or.inl rfl) rfl level
  | dispatch => exact inWalk (Or.inr (Or.inl rfl)) rfl level
  | descend _ _ _ upper =>
      have small : walk.level + 1 ≤ 1 := by
        have different : walk.level ≠ 1 := upper
        omega
      rcases enterTable_cases _ with ⟨_, enters⟩ | ⟨_, enters⟩
      · exact inWalk (Or.inr (Or.inr (Or.inl enters))) rfl small
      · exact inWalk (Or.inr (Or.inr (Or.inr enters))) rfl small

/-! ## The second stage -/

theorem fireStageTwo_spec
    (params : Params) {walker : UpperWalker} {request : StageTwoRequest}
    (wanted : walker.stageTwoRequest? params = some request) :
    request.id = params.upperId ∧ request.rootHit = false ∧ request.middleHit = false ∧
      (fireStageTwo params walker).Uneventful ∧
      ∃ walk,
        (walker.state = .tableRequest walk ∧ walk.table = request.gvpn ∧
            (fireStageTwo params walker).state.state = .tableWait walk) ∨
          (walker.state = .lastRequest walk ∧ walk.lastPage = request.gvpn ∧
            (fireStageTwo params walker).state.state = .lastWait walk) := by
  unfold stageTwoRequest? at wanted
  unfold fireStageTwo
  split at wanted
  · rename_i walk state
    cases wanted
    refine ⟨rfl, rfl, rfl, ?_⟩
    simp only [state]
    exact ⟨⟨rfl, rfl⟩, walk, Or.inl ⟨rfl, rfl, rfl⟩⟩
  · rename_i walk state
    cases wanted
    refine ⟨rfl, rfl, rfl, ?_⟩
    simp only [state]
    exact ⟨⟨rfl, rfl⟩, walk, Or.inr ⟨rfl, rfl, rfl⟩⟩
  · cases wanted

/-- A walker that wants a guest page translated waits for nothing; afterwards it waits
for that page. -/
theorem fireStageTwo_waits
    (params : Params) {walker : UpperWalker} {request : StageTwoRequest}
    (wanted : walker.stageTwoRequest? params = some request) (bounded : walker.Bounded) :
    walker.awaitedPage? = none ∧
      (fireStageTwo params walker).state.state.request = walker.state.request ∧
      (fireStageTwo params walker).state.awaitedPage? = some request.gvpn ∧
      (fireStageTwo params walker).state.awaitedAddress? = walker.awaitedAddress? ∧
      (fireStageTwo params walker).state.dispatch? = none ∧
      (fireStageTwo params walker).state.Bounded := by
  obtain ⟨_, _, _, _, walk, ⟨state, page, next⟩ | ⟨state, page, next⟩⟩ :=
    fireStageTwo_spec params wanted
  all_goals
    refine ⟨by simp [awaitedPage?, state], by rw [next, state]; rfl,
      by simp [awaitedPage?, next, page], by simp [awaitedAddress?, next, state],
      by simp [dispatch?, next], ?_⟩
    intro inner inside
    rw [next] at inside
    cases inside
    exact bounded walk (by rw [state]; rfl)

/-- The ways on from a translation that a walk has waited for. -/
inductive Translated (params : Params) (registers : Registers) (result : StageTwoResult)
    (before : UpperState) : UpperState → Prop
  | last (walk : UpperWalk) (waits : before = .lastWait walk) :
      Translated params registers result before
        (.respond (walk.response registers false false (some result)))
  | alone (walk : UpperWalk) (waits : before = .tableWait walk)
      (second : walk.request.mode = .stageTwo) :
      Translated params registers result before
        (.respond { request := walk.request, stageTwo := some result })
  | guestFault (walk : UpperWalk) (waits : before = .tableWait walk)
      (first : walk.request.mode ≠ .stageTwo) (fault : result.fault = true) :
      Translated params registers result before
        (.respond
          { walk.response registers false false (some result) with
            stageOne :=
              (walk.response registers false false (some result)).stageOne.invalidated })
  | table (walk : UpperWalk) (waits : before = .tableWait walk)
      (first : walk.request.mode ≠ .stageTwo) (mapped : result.fault = false) :
      Translated params registers result before
        (.addressCheck { walk with host := result.hostPage walk.table })

theorem takeStageTwo_cases
    (params : Params) (registers : Registers) (result : StageTwoResult) {walker : UpperWalker}
    {page : Word} (waits : walker.awaitedPage? = some page) :
    Translated params registers result walker.state
        (takeStageTwo params registers result walker).state.state ∧
      (takeStageTwo params registers result walker).Uneventful := by
  obtain ⟨walk, ⟨state, _⟩ | ⟨state, _⟩⟩ := state_of_awaitedPage waits
  · unfold takeStageTwo
    simp only [state]
    split
    · rename_i second
      exact ⟨.alone walk rfl second, rfl, rfl⟩
    · rename_i first
      split
      · rename_i fault
        exact ⟨.guestFault walk rfl first fault, rfl, rfl⟩
      · rename_i mapped
        exact ⟨.table walk rfl first (Bool.eq_false_iff.2 mapped), rfl, rfl⟩
  · unfold takeStageTwo
    simp only [state]
    exact ⟨.last walk rfl, rfl, rfl⟩

/-- A translation that nothing waits for stops the walker as it is. -/
theorem takeStageTwo_of_unawaited
    (params : Params) (registers : Registers) (result : StageTwoResult) {walker : UpperWalker}
    (unawaited : walker.awaitedPage? = none) :
    takeStageTwo params registers result walker =
      walker.misuse params .stageTwoNotAwaited := by
  unfold awaitedPage? at unawaited
  unfold takeStageTwo
  split
  · rename_i walk state
    rw [state] at unawaited
    cases unawaited
  · rename_i walk state
    rw [state] at unawaited
    cases unawaited
  · rfl

theorem takeStageTwo_moved
    (params : Params) (registers : Registers) (result : StageTwoResult) {walker : UpperWalker}
    {page : Word} (waits : walker.awaitedPage? = some page) (bounded : walker.Bounded) :
    Moved walker (takeStageTwo params registers result walker).state ∧
      (takeStageTwo params registers result walker).state.dispatch? = none := by
  obtain ⟨translated, _⟩ := takeStageTwo_cases params registers result waits
  generalize reached : (takeStageTwo params registers result walker).state = after
    at translated ⊢
  generalize next : after.state = following at translated
  cases translated with
  | last walk state | alone walk state | guestFault walk state =>
      refine ⟨moved_of_respond (by rw [state]; rfl : _ = some walk.request) next rfl, ?_⟩
      simp [dispatch?, next]
  | table walk state =>
      refine ⟨⟨by rw [next, state]; rfl, by simp [awaitedPage?, next],
        by simp [awaitedAddress?, next], ?_⟩, by simp [dispatch?, next]⟩
      intro inner inside
      rw [next] at inside
      cases inside
      exact bounded walk (by rw [state]; rfl)

/-- A walker waits for a block or for a guest page, not for both. -/
theorem awaitedAddress_of_awaitedPage
    {walker : UpperWalker} {page : Word} (waits : walker.awaitedPage? = some page) :
    walker.awaitedAddress? = none := by
  obtain ⟨walk, ⟨state, _⟩ | ⟨state, _⟩⟩ := state_of_awaitedPage waits
  · simp [awaitedAddress?, state]
  · simp [awaitedAddress?, state]

theorem awaitedPage_of_awaitedAddress
    {walker : UpperWalker} {address : Word} (waits : walker.awaitedAddress? = some address) :
    walker.awaitedPage? = none := by
  obtain ⟨walk, state⟩ := state_of_awaitedAddress waits
  simp [awaitedPage?, state]

/-! ## Steps -/

/-- The states that a step can leave. -/
abbrev Ticked (registers : Registers) : Protection → UpperState → UpperState → Prop :=
  WalkerKind.Ticked .addressCheck .memoryRequest
    (fun walk => .respond (walk.response registers false true none)) UpperWalk.address

theorem tick_cases
    (params : Params) (registers : Registers) (protection : Protection)
    (walker : UpperWalker) :
    Ticked registers protection walker.state
        (tick params registers protection walker).state.state ∧
      (tick params registers protection walker).Uneventful := by
  rw [tick_eq_kind]
  exact kind.tick_cases params registers protection walker

theorem tick_alike
    (params : Params) (registers : Registers) (protection : Protection)
    (walker : UpperWalker) : Alike walker (tick params registers protection walker).state := by
  obtain ⟨ticked, _⟩ := tick_cases params registers protection walker
  generalize reached : (tick params registers protection walker).state = after at ticked ⊢
  generalize next : after.state = following at ticked
  generalize before : walker.state = current at ticked
  cases ticked with
  | denied walk due | passed walk due =>
      subst due
      refine ⟨by rw [next, before]; rfl, ?_, ?_, ?_⟩
      · simp [awaitedPage?, next, before]
      · simp [awaitedAddress?, next, before]
      · simp [dispatch?, next, before]
  | unchecked =>
      refine ⟨by rw [next, before], ?_, ?_, ?_⟩
      · simp only [awaitedPage?, next, before]
      · simp only [awaitedAddress?, next, before]
      · simp only [dispatch?, next, before]

theorem Bounded.tick
    {walker : UpperWalker} (bounded : walker.Bounded) (params : Params)
    (registers : Registers) (protection : Protection) :
    (tick params registers protection walker).state.Bounded := by
  obtain ⟨ticked, _⟩ := tick_cases params registers protection walker
  unfold Bounded at bounded ⊢
  generalize (UpperWalker.tick params registers protection walker).state.state = following
    at ticked ⊢
  cases ticked with
  | denied => nofun
  | passed walk due =>
      intro inner inside
      cases inside
      exact bounded walk (by rw [due]; rfl)
  | unchecked => exact bounded

end UpperWalker

end PageWalk
