import PageWalk.Proofs.WalkerKind
import PageWalk.StageTwoWalker

/-!
# Operations on the second-stage walker

What every operation of the second-stage walker does to the guest page that it was
asked for and to the block that it waits for. A walk never leaves the three levels,
because a pointer at the leaf level is a page fault.
-/

namespace PageWalk

/-- A pointer that is not a page fault stands above the leaf level. -/
theorem Pte.level_of_pointer
    {pte : Pte} {level : Nat} (sound : pte.pageFaultAt level = false)
    (pointer : pte.isLeaf = false) : level ≠ leafLevel := by
  intro last
  unfold pageFaultAt at sound
  simp [pointer, last] at sound

/-- The walk that the walker is in the middle of. -/
def StageTwoState.walk? : StageTwoState → Option GuestWalk
  | .idle | .respond _ => none
  | .addressCheck walk | .memoryRequest walk _ | .memoryWait walk _ => some walk

def StageTwoState.stage : StageTwoState → ReadStage GuestWalk
  | .addressCheck walk => .check walk
  | .memoryRequest walk address => .request walk address
  | .memoryWait walk address => .wait walk address
  | .idle | .respond _ => .none

/-- The walker that asked, and the guest page that it asked for. -/
def StageTwoState.ticket? : StageTwoState → Option (Nat × Word)
  | .idle => none
  | .addressCheck walk | .memoryRequest walk _ | .memoryWait walk _ =>
      some (walk.request.id, walk.request.gvpn)
  | .respond reply => some (reply.id, reply.result.tag)

/-- The reply to a walk that ends with an entry and the faults that it met. -/
def GuestWalk.reply
    (walk : GuestWalk) (registers : Registers) (pte : Pte) (pageFault accessFault : Bool) :
    StageTwoReply :=
  ⟨walk.request.id,
    StageTwoResult.ofPte walk.request.gvpn pte walk.level pageFault accessFault registers.vmid⟩

namespace StageTwoWalker

def awaitedAddress? (walker : StageTwoWalker) : Option Word :=
  match walker.state with
  | .memoryWait _ address => some address
  | _ => none

/-- The walk is in one of the tables of the three levels. -/
def Bounded (walker : StageTwoWalker) : Prop :=
  ∀ walk, walker.state.walk? = some walk → walk.level ≤ leafLevel

theorem state_of_reply
    {walker : StageTwoWalker} {reply : StageTwoReply} (finished : walker.reply? = some reply) :
    walker.state = .respond reply := by
  unfold reply? at finished
  split at finished
  · rename_i found state
    cases finished
    exact state
  · cases finished

theorem awaitedAddress_of_memoryWait
    {walker : StageTwoWalker} {walk : GuestWalk} {address : Word}
    (state : walker.state = .memoryWait walk address) :
    walker.awaitedAddress? = some address := by
  simp only [awaitedAddress?, state]

/-- A walker with a reply waits for nothing. -/
theorem awaitedAddress_of_respond
    {walker : StageTwoWalker} {reply : StageTwoReply} (state : walker.state = .respond reply) :
    walker.awaitedAddress? = none := by
  simp [awaitedAddress?, state]

/-! ## Entries -/

/-- The ways on from an entry that a walk has read. -/
inductive Followed (params : Params) (registers : Registers) (walk : GuestWalk) (pte : Pte) :
    StageTwoState → Prop
  | accessFault (outside : pte.beyond params.addressBits = true) :
      Followed params registers walk pte (.respond (walk.reply registers pte false true))
  | pageFault (inside : pte.beyond params.addressBits = false)
      (fault : pte.pageFaultAt walk.level = true) :
      Followed params registers walk pte (.respond (walk.reply registers pte true false))
  | leaf (inside : pte.beyond params.addressBits = false)
      (sound : pte.pageFaultAt walk.level = false) (leaf : pte.isLeaf = true) :
      Followed params registers walk pte (.respond (walk.reply registers pte false false))
  | descend (inside : pte.beyond params.addressBits = false)
      (sound : pte.pageFaultAt walk.level = false) (pointer : pte.isLeaf = false) :
      Followed params registers walk pte (.addressCheck (walk.descend pte))

/-- A walk that goes on checks the address of its next entry first. -/
private theorem Followed.silent
    {params : Params} {registers : Registers} {walk : GuestWalk} {pte : Pte}
    {after : StageTwoState} (followed : Followed params registers walk pte after) :
    after.stage.asks? = none := by
  cases followed with
  | accessFault | pageFault | leaf | descend => rfl

theorem follow_cases
    (params : Params) (registers : Registers) (walk : GuestWalk) (pte : Pte)
    (walker : StageTwoWalker) :
    Followed params registers walk pte (follow params registers walk pte walker).state.state ∧
      (follow params registers walk pte walker).Uneventful := by
  unfold follow
  split
  · rename_i outside
    exact ⟨.accessFault outside, rfl, rfl⟩
  · rename_i inside
    have inside := Bool.eq_false_iff.2 inside
    split
    · rename_i fault
      exact ⟨.pageFault inside fault, rfl, rfl⟩
    · rename_i sound
      have sound := Bool.eq_false_iff.2 sound
      split
      · rename_i leaf
        exact ⟨.leaf inside sound leaf, rfl, rfl⟩
      · rename_i pointer
        exact ⟨.descend inside sound (Bool.eq_false_iff.2 pointer), rfl, rfl⟩

/-! ## A walker with one walk at a time -/

/-- The second-stage walker among the walkers with one walk at a time. -/
def kind : WalkerKind StageTwoWalker StageTwoState GuestWalk where
  name := Params.stageTwoName
  reader := Params.stageTwoId
  core walker :=
    { cycle := walker.cycle
      state := walker.state
      watchdog := walker.watchdog
      memoryRequests := walker.memoryRequests
      accessFaults := walker.accessFaults
      timeouts := walker.timeouts }
  withCore walker core :=
    { walker with
      cycle := core.cycle
      state := core.state
      watchdog := core.watchdog
      memoryRequests := core.memoryRequests
      accessFaults := core.accessFaults
      timeouts := core.timeouts }
  isIdle state := state == .idle
  stage := StageTwoState.stage
  check := .addressCheck
  request := .memoryRequest
  wait := .memoryWait
  denied registers walk := .respond (walk.reply registers {} false true)
  address := GuestWalk.address
  event
    | .denied address => .stageTwo (.denied address)
    | .finished _ walk =>
        .stageTwo (.finished walk.request.id walk.request.gvpn walk.level 0 false true)
    | .overdue state steps => .stageTwo (.overdue (state.page.getD 0) steps)
  follow params registers block walk address walker :=
    let pte : Pte := ⟨entryAt block address⟩
    Outcome.andThen
      { state := walker, notes := [walker.note params (.read walk.level pte)] }
      (follow params registers walk pte)
  core_withCore _ _ := rfl
  check_iff state walk := by cases state <;> simp [StageTwoState.stage]
  request_iff state walk address := by cases state <;> simp [StageTwoState.stage]
  wait_iff state walk address := by cases state <;> simp [StageTwoState.stage]
  idle_stage state idle := by
    rw [eq_of_beq idle]
    rfl
  stage_denied _ _ := rfl
  busy_denied _ _ := rfl
  event_keeps _ _ report := by cases report <;> rfl
  event_overdue _ _ report := by cases report <;> rfl
  follow_uneventful params registers block walk address walker :=
    Outcome.Uneventful.andThen ⟨rfl, rfl⟩ (follow_cases params registers walk _ walker).2
  follow_silent params registers block walk address walker :=
    (follow_cases params registers walk _ walker).1.silent

theorem awaitedAddress_eq_kind (walker : StageTwoWalker) :
    walker.awaitedAddress? = kind.awaitedAddress? walker := by
  unfold awaitedAddress? WalkerKind.awaitedAddress? WalkerKind.state
  cases state : walker.state <;> simp only [kind, StageTwoState.stage, state]

theorem memoryRequest_eq_kind (params : Params) (walker : StageTwoWalker) :
    walker.memoryRequest? params = kind.memoryRequest? params walker := by
  unfold memoryRequest? WalkerKind.memoryRequest? WalkerKind.state
  cases state : walker.state <;> simp only [kind, StageTwoState.stage, state]

theorem fireMemory_eq_kind (params : Params) (walker : StageTwoWalker) :
    fireMemory params walker = kind.fireMemory params walker := by
  unfold fireMemory WalkerKind.fireMemory WalkerKind.state
  cases state : walker.state <;> simp only [kind, StageTwoState.stage, state] <;> rfl

theorem takeBlock_eq_kind
    (params : Params) (registers : Registers) (block : Block) (walker : StageTwoWalker) :
    takeBlock params registers block walker =
      kind.takeBlock params registers block walker := by
  unfold takeBlock WalkerKind.takeBlock WalkerKind.state
  cases state : walker.state <;> simp only [kind, StageTwoState.stage, state] <;> rfl

theorem tick_eq_kind
    (params : Params) (registers : Registers) (protection : Protection)
    (walker : StageTwoWalker) :
    tick params registers protection walker =
      kind.tick params registers protection walker := by
  have checked :
      checkAddress params registers protection walker =
        kind.checkAddress params registers protection walker := by
    unfold checkAddress WalkerKind.checkAddress WalkerKind.state
    cases state : walker.state with
    | addressCheck walk =>
        simp only [kind, StageTwoState.stage, state]
        rfl
    | _ => simp only [kind, StageTwoState.stage, state]
  unfold tick
  rw [checked]
  rfl

/-! ## Accepting a walk and handing its reply over -/

theorem start_request (registers : Registers) (request : StageTwoRequest) :
    (GuestWalk.start registers request).request = request := by
  unfold GuestWalk.start
  split
  · rfl
  · split <;> rfl

theorem start_level (registers : Registers) (request : StageTwoRequest) :
    (GuestWalk.start registers request).level ≤ leafLevel := by
  unfold GuestWalk.start
  split
  · exact Nat.le_refl 2
  · split
    · exact (by decide : 1 ≤ leafLevel)
    · exact Nat.zero_le leafLevel

/-- A ready walker takes a walk; a guest page that is too wide ends it at once. -/
theorem accept_cases
    (params : Params) (registers : Registers) (request : StageTwoRequest)
    {walker : StageTwoWalker} (ready : walker.ready = true) :
    (accept params registers request walker).Uneventful ∧
      (((GuestWalk.start registers request).isWide = true ∧
          (accept params registers request walker).state.state =
            .respond ((GuestWalk.start registers request).reply registers {} true false)) ∨
        ((GuestWalk.start registers request).isWide = false ∧
          (accept params registers request walker).state.state =
            .addressCheck (GuestWalk.start registers request))) := by
  unfold accept
  simp only [ready, if_true]
  cases wide : (GuestWalk.start registers request).isWide with
  | true => exact ⟨Outcome.Uneventful.andThen ⟨rfl, rfl⟩ ⟨rfl, rfl⟩, Or.inl ⟨rfl, rfl⟩⟩
  | false => exact ⟨Outcome.Uneventful.andThen ⟨rfl, rfl⟩ ⟨rfl, rfl⟩, Or.inr ⟨rfl, rfl⟩⟩

theorem accept_spec
    (params : Params) (registers : Registers) (request : StageTwoRequest)
    {walker : StageTwoWalker} (ready : walker.ready = true) :
    (accept params registers request walker).state.state.ticket? =
        some (request.id, request.gvpn) ∧
      (accept params registers request walker).state.awaitedAddress? = none ∧
      (accept params registers request walker).state.Bounded := by
  have asked := start_request registers request
  have level := start_level registers request
  obtain ⟨_, ⟨_, state⟩ | ⟨_, state⟩⟩ := accept_cases params registers request ready
  · refine ⟨?_, by simp [awaitedAddress?, state], ?_⟩
    · rw [state]
      simp only [StageTwoState.ticket?, GuestWalk.reply, StageTwoResult.ofPte, asked]
    · intro walk inside
      rw [state] at inside
      cases inside
  · refine ⟨?_, by simp [awaitedAddress?, state], ?_⟩
    · rw [state]
      simp only [StageTwoState.ticket?, asked]
    · intro walk inside
      rw [state] at inside
      cases inside
      exact level

theorem takeReply_spec
    (params : Params) {walker : StageTwoWalker} {reply : StageTwoReply}
    (finished : walker.reply? = some reply) :
    (takeReply params walker).state.state = .idle ∧ (takeReply params walker).Uneventful := by
  unfold takeReply
  simp only [finished]
  exact ⟨trivial, rfl, rfl⟩

/-- An idle walker was asked for nothing and waits for nothing. -/
theorem observations_of_idle {walker : StageTwoWalker} (idle : walker.state = .idle) :
    walker.state.ticket? = none ∧ walker.awaitedAddress? = none ∧ walker.Bounded := by
  refine ⟨by rw [idle]; rfl, by simp [awaitedAddress?, idle], ?_⟩
  intro walk inside
  rw [idle] at inside
  cases inside

theorem state_of_ready {walker : StageTwoWalker} (ready : walker.ready = true) :
    walker.state = .idle := by
  unfold StageTwoWalker.ready StageTwoWalker.isIdle at ready
  exact eq_of_beq ready

/-! ## Memory -/

theorem state_of_awaitedAddress
    {walker : StageTwoWalker} {address : Word}
    (waits : walker.awaitedAddress? = some address) :
    ∃ walk, walker.state = .memoryWait walk address := by
  rw [awaitedAddress_eq_kind] at waits
  exact WalkerKind.state_of_awaitedAddress waits

theorem fireMemory_spec
    (params : Params) {walker : StageTwoWalker} {request : MemoryRequest}
    (wanted : walker.memoryRequest? params = some request) :
    ∃ walk, walker.state = .memoryRequest walk request.address ∧
      request.id = params.stageTwoId ∧
      (fireMemory params walker).state.state = .memoryWait walk request.address ∧
      (fireMemory params walker).Uneventful := by
  rw [memoryRequest_eq_kind] at wanted
  rw [fireMemory_eq_kind]
  exact WalkerKind.fireMemory_spec wanted

/-- A walker waits for the block of the read that it has sent. -/
theorem fireMemory_waits
    (params : Params) {walker : StageTwoWalker} {request : MemoryRequest}
    (wanted : walker.memoryRequest? params = some request) :
    walker.awaitedAddress? = none ∧
      (fireMemory params walker).state.awaitedAddress? = some request.address := by
  rw [memoryRequest_eq_kind] at wanted
  rw [awaitedAddress_eq_kind, awaitedAddress_eq_kind, fireMemory_eq_kind]
  exact WalkerKind.fireMemory_waits wanted

/-- A read that is sent changes only what the walker waits for. -/
theorem fireMemory_keeps
    (params : Params) {walker : StageTwoWalker} {request : MemoryRequest}
    (wanted : walker.memoryRequest? params = some request) (bounded : walker.Bounded) :
    (fireMemory params walker).state.state.ticket? = walker.state.ticket? ∧
      (fireMemory params walker).state.Bounded := by
  obtain ⟨walk, state, _, next, _⟩ := fireMemory_spec params wanted
  refine ⟨by rw [state, next]; rfl, ?_⟩
  intro current found
  rw [next] at found
  exact bounded current (by rw [state]; exact found)

theorem refill_of_memoryWait
    {walker : StageTwoWalker} {walk : GuestWalk} {address : Word}
    (state : walker.state = .memoryWait walk address) (block : Block) :
    walker.refill? block = some (walk.refill address block) := by
  simp only [refill?, state]

/-- With the block that it waits for, the walker goes on from the entry of its walk. -/
theorem takeBlock_cases
    (params : Params) (registers : Registers) (block : Block) {walker : StageTwoWalker}
    {walk : GuestWalk} {address : Word} (state : walker.state = .memoryWait walk address) :
    Followed params registers walk ⟨entryAt block address⟩
        (takeBlock params registers block walker).state.state ∧
      (takeBlock params registers block walker).Uneventful := by
  unfold takeBlock
  simp only [state]
  obtain ⟨followed, uneventful⟩ :=
    follow_cases params registers walk ⟨entryAt block address⟩ walker
  exact ⟨followed, Outcome.Uneventful.andThen ⟨rfl, rfl⟩ uneventful⟩

theorem takeBlock_spec
    (params : Params) (registers : Registers) (block : Block) {walker : StageTwoWalker}
    {address : Word} (waits : walker.awaitedAddress? = some address)
    (bounded : walker.Bounded) :
    (takeBlock params registers block walker).state.state.ticket? = walker.state.ticket? ∧
      (takeBlock params registers block walker).state.awaitedAddress? = none ∧
      (takeBlock params registers block walker).state.Bounded := by
  obtain ⟨walk, state⟩ := state_of_awaitedAddress waits
  have level : walk.level ≤ leafLevel := bounded walk (by rw [state]; rfl)
  obtain ⟨followed, _⟩ := takeBlock_cases params registers block state
  generalize reached : (takeBlock params registers block walker).state = after at followed ⊢
  generalize next : after.state = following at followed
  cases followed with
  | accessFault | pageFault | leaf =>
      refine ⟨by rw [state]; rfl, by simp [awaitedAddress?, next], ?_⟩
      intro inner inside
      rw [next] at inside
      cases inside
  | descend _ sound pointer =>
      refine ⟨by rw [state]; rfl, by simp [awaitedAddress?, next], ?_⟩
      intro inner inside
      rw [next] at inside
      cases inside
      have upper := Pte.level_of_pointer sound pointer
      exact Nat.lt_of_le_of_ne level upper

/-! ## Steps -/

/-- The states that a step can leave. -/
abbrev Ticked (registers : Registers) : Protection → StageTwoState → StageTwoState → Prop :=
  WalkerKind.Ticked .addressCheck .memoryRequest
    (fun walk => .respond (walk.reply registers {} false true)) GuestWalk.address

theorem tick_cases
    (params : Params) (registers : Registers) (protection : Protection)
    (walker : StageTwoWalker) :
    Ticked registers protection walker.state
        (tick params registers protection walker).state.state ∧
      (tick params registers protection walker).Uneventful := by
  rw [tick_eq_kind]
  exact kind.tick_cases params registers protection walker

theorem tick_spec
    (params : Params) (registers : Registers) (protection : Protection)
    {walker : StageTwoWalker} (bounded : walker.Bounded) :
    (tick params registers protection walker).state.state.ticket? = walker.state.ticket? ∧
      (tick params registers protection walker).state.awaitedAddress? =
        walker.awaitedAddress? ∧
      (tick params registers protection walker).state.Bounded := by
  obtain ⟨ticked, _⟩ := tick_cases params registers protection walker
  generalize reached : (tick params registers protection walker).state = after at ticked ⊢
  generalize next : after.state = following at ticked
  generalize before : walker.state = current at ticked
  cases ticked with
  | denied walk due =>
      subst due
      refine ⟨rfl, by simp [awaitedAddress?, next, before], ?_⟩
      intro inner inside
      rw [next] at inside
      cases inside
  | passed walk due =>
      subst due
      refine ⟨rfl, by simp [awaitedAddress?, next, before], ?_⟩
      intro inner inside
      rw [next] at inside
      cases inside
      exact bounded walk (by rw [before]; rfl)
  | unchecked =>
      refine ⟨rfl, by simp only [awaitedAddress?, next, before], ?_⟩
      unfold Bounded at bounded ⊢
      rw [next]
      rw [before] at bounded
      exact bounded

end StageTwoWalker

end PageWalk
