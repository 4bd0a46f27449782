import PageWalk.Params
import PageWalk.Proofs.Outcome
import PageWalk.Protection
import PageWalk.Watchdog

/-!
# Walkers with one walk at a time

The upper walker and the second-stage walker each serve one walk at a time. How they check an
address, send a read and take a step is the same for both: it is stated here once, over the
parts that both have. They differ in their states, and in how a walk goes on from the block
that it has read.
-/

namespace PageWalk

/-- The busy steps that a note reports. -/
def Note.overdueSteps? (note : Note) : Option Word :=
  match note.event with
  | .stageTwo (.overdue _ steps) | .upper (.overdue _ steps) => some steps
  | _ => none

/-- The parts of a walker that its checks, its reads and its watchdog change. -/
structure WalkerCore (State : Type) where
  cycle : Word
  state : State
  watchdog : Watchdog
  memoryRequests : Nat
  accessFaults : Nat
  timeouts : Nat

/-- Where a walk stands with its next read. -/
inductive ReadStage (Walk : Type)
  /-- There is no walk, or it does not read next. -/
  | none
  /-- The address has to be formed and checked. -/
  | check (walk : Walk)
  | request (walk : Walk) (address : Word)
  | wait (walk : Walk) (address : Word)

/-- The address that a walk asks for. -/
def ReadStage.asks? {Walk : Type} : ReadStage Walk → Option Word
  | .request _ address => some address
  | .none | .check _ | .wait _ _ => Option.none

/-- What a step reports. -/
inductive StepEvent (State Walk : Type)
  | denied (address : Word)
  | finished (registers : Registers) (walk : Walk)
  | overdue (state : State) (steps : Word)

def StepEvent.overdueSteps? {State Walk : Type} : StepEvent State Walk → Option Word
  | .overdue _ steps => some steps
  | .denied _ | .finished _ _ => none

/-- Walkers with one walk at a time: what their states say, how they name what they do, and
how they go on from a block. -/
structure WalkerKind (Walker State Walk : Type) where
  name : Params → String
  reader : Params → Nat
  core : Walker → WalkerCore State
  withCore : Walker → WalkerCore State → Walker
  isIdle : State → Bool
  stage : State → ReadStage Walk
  check : Walk → State
  request : Walk → Word → State
  wait : Walk → Word → State
  /-- The answer to a walk whose next address is denied. -/
  denied : Registers → Walk → State
  /-- The address of the next entry. -/
  address : Walk → Word
  event : StepEvent State Walk → Event
  /-- Goes on from the block at the address that the walk waits for. -/
  follow : Params → Registers → Block → Walk → Word → Walker → Outcome Walker
  core_withCore : ∀ walker changed, core (withCore walker changed) = changed
  check_iff : ∀ state walk, stage state = .check walk ↔ state = check walk
  request_iff : ∀ state walk address,
    stage state = .request walk address ↔ state = request walk address
  wait_iff : ∀ state walk address, stage state = .wait walk address ↔ state = wait walk address
  idle_stage : ∀ state, isIdle state = true → stage state = .none
  stage_denied : ∀ registers walk, stage (denied registers walk) = .none
  busy_denied : ∀ registers walk, isIdle (denied registers walk) = false
  event_keeps : ∀ unit cycle report, Note.droppedPrefetch? ⟨unit, cycle, event report⟩ = none
  event_overdue : ∀ unit cycle report,
    Note.overdueSteps? ⟨unit, cycle, event report⟩ = report.overdueSteps?
  follow_uneventful : ∀ params registers block walk address walker,
    (follow params registers block walk address walker).Uneventful
  /-- After a block the next address has to be checked first. -/
  follow_silent : ∀ params registers block walk address walker,
    (stage (core (follow params registers block walk address walker).state).state).asks? = none

namespace WalkerKind

variable {Walker State Walk : Type} (kind : WalkerKind Walker State Walk) (params : Params)
  (registers : Registers) (protection : Protection)

/-! ## What the walkers do -/

def state (walker : Walker) : State :=
  (kind.core walker).state

def note (walker : Walker) (report : StepEvent State Walk) : Note :=
  ⟨kind.name params, (kind.core walker).cycle, kind.event report⟩

def misuse (cause : Misuse) (walker : Walker) : Outcome Walker :=
  .stop walker (.misuse (kind.name params) cause)

def memoryRequest? (walker : Walker) : Option MemoryRequest :=
  match kind.stage (kind.state walker) with
  | .request _ address => some ⟨address, kind.reader params⟩
  | _ => none

def awaitedAddress? (walker : Walker) : Option Word :=
  match kind.stage (kind.state walker) with
  | .wait _ address => some address
  | _ => none

def fireMemory (walker : Walker) : Outcome Walker :=
  match kind.stage (kind.state walker) with
  | .request walk address =>
      let core := kind.core walker
      { state := kind.withCore walker
          { core with
            state := kind.wait walk address
            memoryRequests := core.memoryRequests + 1 } }
  | _ => kind.misuse params .fireWithoutMemoryRequest walker

def takeBlock (block : Block) (walker : Walker) : Outcome Walker :=
  match kind.stage (kind.state walker) with
  | .wait walk address => kind.follow params registers block walk address walker
  | _ => kind.misuse params .blockNotAwaited walker

def checkAddress (walker : Walker) : Outcome Walker :=
  match kind.stage (kind.state walker) with
  | .check walk =>
      let core := kind.core walker
      let address := kind.address walk
      if (protection address).accessFault then
        { state := kind.withCore walker
            { core with
              state := kind.denied registers walk
              accessFaults := core.accessFaults + 1 }
          notes :=
            [kind.note params walker (.denied address),
              kind.note params walker (.finished registers walk)] }
      else
        { state := kind.withCore walker { core with state := kind.request walk address } }
  | _ => { state := walker }

def watch (walker : Walker) : Outcome Walker :=
  let core := kind.core walker
  let busy := !kind.isIdle core.state
  let fires := core.watchdog.fires params.timeoutThreshold busy
  let watchdog := core.watchdog.tick params.timeoutThreshold busy
  { state := kind.withCore walker
      { core with watchdog := watchdog, timeouts := core.timeouts + fires.toNat }
    notes :=
      if fires then [kind.note params walker (.overdue core.state watchdog.busySteps)] else [] }

/-- One cycle later. -/
def advance (walker : Walker) : Walker :=
  let core := kind.core walker
  kind.withCore walker { core with cycle := core.cycle + 1 }

def tick (walker : Walker) : Outcome Walker :=
  (kind.checkAddress params registers protection walker).andThen fun walker =>
    (kind.watch params walker).andThen fun walker => { state := kind.advance walker }

variable {kind} {params} {walker : Walker}

/-- A walk that is about to read is not over. -/
theorem busy_of_stage (reads : kind.stage (kind.state walker) ≠ .none) :
    kind.isIdle (kind.state walker) = false := by
  cases idle : kind.isIdle (kind.state walker) with
  | false => rfl
  | true => exact absurd (kind.idle_stage _ idle) reads

/-! ## Reads -/

theorem state_of_awaitedAddress
    {address : Word} (waits : kind.awaitedAddress? walker = some address) :
    ∃ walk, kind.state walker = kind.wait walk address := by
  unfold awaitedAddress? at waits
  split at waits
  · rename_i walk found stage
    cases waits
    exact ⟨walk, (kind.wait_iff _ walk address).1 stage⟩
  · cases waits

theorem fireMemory_spec
    {request : MemoryRequest} (wanted : kind.memoryRequest? params walker = some request) :
    ∃ walk, kind.state walker = kind.request walk request.address ∧
      request.id = kind.reader params ∧
      kind.state (kind.fireMemory params walker).state = kind.wait walk request.address ∧
      (kind.fireMemory params walker).Uneventful := by
  unfold memoryRequest? at wanted
  split at wanted
  · rename_i walk address stage
    cases wanted
    refine ⟨walk, (kind.request_iff _ walk address).1 stage, rfl, ?_⟩
    unfold fireMemory
    rw [stage]
    refine ⟨?_, rfl, rfl⟩
    simp only [state, kind.core_withCore]
  · cases wanted

/-- A walker waits for the block of the read that it has sent. -/
theorem fireMemory_waits
    {request : MemoryRequest} (wanted : kind.memoryRequest? params walker = some request) :
    kind.awaitedAddress? walker = none ∧
      kind.awaitedAddress? (kind.fireMemory params walker).state = some request.address := by
  obtain ⟨walk, asks, _, waits, _⟩ := fireMemory_spec wanted
  constructor
  · simp only [awaitedAddress?, (kind.request_iff _ walk _).2 asks]
  · simp only [awaitedAddress?, (kind.wait_iff _ walk _).2 waits]

/-- A block that nothing waits for stops the walker as it is. -/
theorem takeBlock_of_unawaited
    (registers : Registers) (block : Block) (unawaited : kind.awaitedAddress? walker = none) :
    kind.takeBlock params registers block walker =
      kind.misuse params .blockNotAwaited walker := by
  unfold awaitedAddress? at unawaited
  unfold takeBlock
  split
  · rename_i walk address stage
    rw [stage] at unawaited
    cases unawaited
  · rfl

/-! ## Steps -/

/-- The states that a step can leave: a walk that is due for the check of its address is denied
or passes. -/
inductive Ticked {State Walk : Type} (check : Walk → State) (request : Walk → Word → State)
    (denied : Walk → State) (address : Walk → Word) (protection : Protection) (before : State) :
    State → Prop
  | denied (walk : Walk) (due : before = check walk)
      (fault : (protection (address walk)).accessFault = true) :
      Ticked check request denied address protection before (denied walk)
  | passed (walk : Walk) (due : before = check walk)
      (allowed : (protection (address walk)).accessFault = false) :
      Ticked check request denied address protection before (request walk (address walk))
  | unchecked (notDue : ∀ walk, before ≠ check walk) :
      Ticked check request denied address protection before before

/-- What holds of the state holds after a step if either verdict on an address keeps it. -/
theorem Ticked.keeps
    {check : Walk → State} {request : Walk → Word → State} {denied : Walk → State}
    {address : Walk → Word} {protection : Protection} {before after : State}
    (ticked : Ticked check request denied address protection before after)
    {holds : State → Prop}
    (denies : ∀ walk, (protection (address walk)).accessFault = true →
      holds (check walk) → holds (denied walk))
    (passes : ∀ walk, (protection (address walk)).accessFault = false →
      holds (check walk) → holds (request walk (address walk)))
    (start : holds before) : holds after := by
  cases ticked with
  | denied walk due fault =>
      subst due
      exact denies walk fault start
  | passed walk due allowed =>
      subst due
      exact passes walk allowed start
  | unchecked => exact start

variable (kind params walker)

theorem checkAddress_cases :
    Ticked kind.check kind.request (kind.denied registers) kind.address protection
        (kind.state walker)
        (kind.state (kind.checkAddress params registers protection walker).state) ∧
      (kind.checkAddress params registers protection walker).Uneventful := by
  unfold checkAddress
  split
  · rename_i walk stage
    have due := (kind.check_iff _ walk).1 stage
    dsimp only
    split
    · rename_i fault
      refine ⟨?_, rfl, ?_⟩
      · simp only [state, kind.core_withCore]
        exact .denied walk due fault
      · simp [Outcome.discarded, note, kind.event_keeps]
    · rename_i allowed
      refine ⟨?_, rfl, rfl⟩
      simp only [state, kind.core_withCore]
      exact .passed walk due (Bool.eq_false_iff.2 allowed)
  · rename_i notDue
    exact ⟨.unchecked fun walk due => notDue walk ((kind.check_iff _ walk).2 due), rfl, rfl⟩

@[simp]
theorem watch_state : kind.state (kind.watch params walker).state = kind.state walker := by
  simp only [state, watch, kind.core_withCore]

theorem watch_uneventful : (kind.watch params walker).Uneventful := by
  refine ⟨rfl, ?_⟩
  unfold watch Outcome.discarded
  dsimp only
  split
  · simp [note, kind.event_keeps]
  · rfl

@[simp]
theorem advance_state : kind.state (kind.advance walker) = kind.state walker := by
  simp only [state, advance, kind.core_withCore]

theorem tick_cases :
    Ticked kind.check kind.request (kind.denied registers) kind.address protection
        (kind.state walker)
        (kind.state (kind.tick params registers protection walker).state) ∧
      (kind.tick params registers protection walker).Uneventful := by
  obtain ⟨checked, uneventful⟩ := kind.checkAddress_cases params registers protection walker
  have watched :=
    kind.watch_uneventful params (kind.checkAddress params registers protection walker).state
  refine ⟨?_, uneventful.andThen (watched.andThen ⟨rfl, rfl⟩)⟩
  unfold tick
  rw [Outcome.andThen_state_of_running _ uneventful.running,
    Outcome.andThen_state_of_running _ watched.running, advance_state, watch_state]
  exact checked

end WalkerKind

end PageWalk
