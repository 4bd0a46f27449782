import PageWalk.LeafWalker
import PageWalk.Proofs.StageTwoWalker
import PageWalk.Proofs.UpperWalker

/-!
# Walkers in lockstep

Two walkers that differ only in what they have counted do the same: every operation
leaves them twins and stops both or neither. The walks decide what comes next; the
cycle, the counters and, outside the leaf walker, the watchdog do not.
-/

namespace PageWalk

/-! ## Operations on two states -/

namespace Outcome

variable {State Larger Item : Type}

/-- Two operations left related states, and both stopped with the same fault or
neither did. -/
structure Matched (related : State → State → Prop) (outcome other : Outcome State) : Prop where
  states : related outcome.state other.state
  faults : other.fault = outcome.fault

variable {related : State → State → Prop} {outcome other : Outcome State}

theorem Matched.map
    {wider : Larger → Larger → Prop} {embed embedOther : State → Larger}
    (matched : Matched related outcome other)
    (widen : ∀ state twin, related state twin → wider (embed state) (embedOther twin)) :
    Matched wider (outcome.map embed) (other.map embedOther) :=
  ⟨widen _ _ matched.states, matched.faults⟩

/-- The first operation may leave more in common than the second one. -/
theorem Matched.andThenInto
    {weaker : State → State → Prop} {next nextOther : State → Outcome State}
    (matched : Matched related outcome other)
    (weaken : ∀ state twin, related state twin → weaker state twin)
    (after : ∀ state twin, related state twin → Matched weaker (next state) (nextOther twin)) :
    Matched weaker (outcome.andThen next) (other.andThen nextOther) := by
  obtain ⟨states, faults⟩ := matched
  cases stopped : outcome.fault with
  | some fault =>
      rw [stopped] at faults
      rw [andThen_of_stopped next stopped, andThen_of_stopped nextOther faults]
      exact ⟨weaken _ _ states, faults.trans stopped.symm⟩
  | none =>
      rw [stopped] at faults
      rw [andThen_of_running next stopped, andThen_of_running nextOther faults]
      exact { after _ _ states with }

theorem Matched.andThen
    {next nextOther : State → Outcome State} (matched : Matched related outcome other)
    (after : ∀ state twin, related state twin →
      Matched related (next state) (nextOther twin)) :
    Matched related (outcome.andThen next) (other.andThen nextOther) :=
  matched.andThenInto (fun _ _ states => states) after

theorem Matched.forEach
    {operation : Item → State → Outcome State} {items : List Item}
    (each : ∀ item ∈ items, ∀ state twin, related state twin →
      Matched related (operation item state) (operation item twin))
    {state twin : State} (start : related state twin) :
    Matched related (forEach operation items state) (forEach operation items twin) := by
  induction items generalizing state twin with
  | nil =>
      exact ⟨start, rfl⟩
  | cons item items inductionHypothesis =>
      have first := each item List.mem_cons_self state twin start
      refine first.andThen fun _ _ next => inductionHypothesis ?_ next
      exact fun other member => each other (List.mem_cons_of_mem item member)

end Outcome

open Outcome (Matched)

/-! ## Walkers with one walk at a time -/

namespace WalkerKind

variable {Walker State Walk : Type} {kind : WalkerKind Walker State Walk}
  {walker other : Walker}

/-- Two walkers of a kind are at the same point of the same walk. -/
def Twins (kind : WalkerKind Walker State Walk) (walker other : Walker) : Prop :=
  kind.state other = kind.state walker

theorem Twins.withCore
    (walker other : Walker) {core twin : WalkerCore State} (same : twin.state = core.state) :
    kind.Twins (kind.withCore walker core) (kind.withCore other twin) := by
  simp only [Twins, state, kind.core_withCore, same]

theorem Twins.fireMemory (twins : kind.Twins walker other) (params : Params) :
    Matched kind.Twins (kind.fireMemory params walker) (kind.fireMemory params other) := by
  have same : kind.state other = kind.state walker := twins
  simp only [WalkerKind.fireMemory, same]
  split
  · exact ⟨.withCore walker other rfl, rfl⟩
  · exact ⟨twins, rfl⟩

private theorem Twins.checkAddress
    (twins : kind.Twins walker other) (params : Params) (registers : Registers)
    (protection : Protection) :
    Matched kind.Twins (kind.checkAddress params registers protection walker)
      (kind.checkAddress params registers protection other) := by
  have same : kind.state other = kind.state walker := twins
  simp only [WalkerKind.checkAddress, same]
  split
  · split
    · exact ⟨.withCore walker other rfl, rfl⟩
    · exact ⟨.withCore walker other rfl, rfl⟩
  · exact ⟨twins, rfl⟩

theorem Twins.tick
    (twins : kind.Twins walker other) (params : Params) (registers : Registers)
    (protection : Protection) :
    Matched kind.Twins (kind.tick params registers protection walker)
      (kind.tick params registers protection other) := by
  refine (twins.checkAddress params registers protection).andThen fun state twin next => ?_
  have watched : Matched kind.Twins (kind.watch params state) (kind.watch params twin) :=
    ⟨.withCore state twin next, rfl⟩
  exact watched.andThen fun state twin last => ⟨.withCore state twin last, rfl⟩

end WalkerKind

/-! ## The upper walker -/

namespace UpperWalker

/-- Two upper walkers are at the same point of the same walk. -/
def Twins (walker other : UpperWalker) : Prop :=
  other.state = walker.state

variable {walker other : UpperWalker}

theorem Twins.state (twins : Twins walker other) : other.state = walker.state :=
  twins

theorem Twins.ready (twins : Twins walker other) : other.ready = walker.ready :=
  congrArg (· == UpperState.idle) twins

theorem Twins.response (twins : Twins walker other) : other.response? = walker.response? := by
  simp only [response?, twins.state]

theorem Twins.dispatch (twins : Twins walker other) : other.dispatch? = walker.dispatch? := by
  simp only [dispatch?, twins.state]

theorem Twins.refill (twins : Twins walker other) : other.refill? = walker.refill? := by
  funext block
  simp only [refill?, twins.state]

theorem Twins.memoryRequest (twins : Twins walker other) :
    other.memoryRequest? = walker.memoryRequest? := by
  funext params
  simp only [memoryRequest?, twins.state]

theorem Twins.stageTwoRequest (twins : Twins walker other) :
    other.stageTwoRequest? = walker.stageTwoRequest? := by
  funext params
  simp only [stageTwoRequest?, twins.state]

theorem Twins.accept
    (twins : Twins walker other) (params : Params) (registers : Registers)
    (request : UpperRequest) :
    Matched Twins (accept params registers request walker)
      (accept params registers request other) := by
  unfold UpperWalker.accept
  rw [twins.ready]
  by_cases ready : walker.ready = true
  · simp only [if_pos ready]
    split <;> exact ⟨rfl, rfl⟩
  · simp only [if_neg ready]
    exact ⟨twins, rfl⟩

theorem Twins.takeResponse (twins : Twins walker other) (params : Params) :
    Matched Twins (takeResponse params walker) (takeResponse params other) := by
  simp only [UpperWalker.takeResponse, response?, twins.state]
  cases walker.state with
  | respond response => exact ⟨rfl, rfl⟩
  | _ => exact ⟨twins, rfl⟩

theorem Twins.takeDispatch (twins : Twins walker other) (params : Params) :
    Matched Twins (takeDispatch params walker) (takeDispatch params other) := by
  simp only [UpperWalker.takeDispatch, dispatch?, twins.state]
  cases walker.state with
  | dispatch walk => exact ⟨rfl, rfl⟩
  | _ => exact ⟨twins, rfl⟩

theorem Twins.fireMemory (twins : Twins walker other) (params : Params) :
    Matched Twins (fireMemory params walker) (fireMemory params other) := by
  rw [fireMemory_eq_kind, fireMemory_eq_kind]
  have same : kind.Twins walker other := twins
  exact same.fireMemory params

theorem Twins.fireStageTwo (twins : Twins walker other) (params : Params) :
    Matched Twins (fireStageTwo params walker) (fireStageTwo params other) := by
  simp only [UpperWalker.fireStageTwo, twins.state]
  cases walker.state with
  | tableRequest walk | lastRequest walk => exact ⟨rfl, rfl⟩
  | _ => exact ⟨twins, rfl⟩

private theorem finish_twins
    (params : Params) (registers : Registers) (walk : UpperWalk) (pageFault accessFault : Bool)
    (stageTwo : Option StageTwoResult) (walker other : UpperWalker) :
    Matched Twins (finish params registers walk pageFault accessFault stageTwo walker)
      (finish params registers walk pageFault accessFault stageTwo other) :=
  ⟨rfl, rfl⟩

private theorem follow_twins
    (params : Params) (registers : Registers) (walk : UpperWalk) (walker other : UpperWalker) :
    Matched Twins (follow params registers walk walker)
      (follow params registers walk other) := by
  simp only [follow]
  split
  · exact finish_twins params registers walk false true none walker other
  · split
    · exact finish_twins params registers walk true false none walker other
    · split
      · split
        · exact ⟨rfl, rfl⟩
        · exact finish_twins params registers walk false false none walker other
      · split
        · exact ⟨rfl, rfl⟩
        · exact ⟨rfl, rfl⟩

theorem Twins.takeBlock
    (twins : Twins walker other) (params : Params) (registers : Registers) (block : Block) :
    Matched Twins (takeBlock params registers block walker)
      (takeBlock params registers block other) := by
  simp only [UpperWalker.takeBlock, twins.state]
  cases walker.state with
  | memoryWait walk address =>
      have start :
          Matched Twins
            { state := walker
              notes :=
                [walker.note params (.read walk.level ⟨entryAt block address⟩)] }
            { state := other
              notes :=
                [other.note params (.read walk.level ⟨entryAt block address⟩)] } :=
        ⟨twins, rfl⟩
      exact start.andThen fun _ _ _ => follow_twins params registers _ _ _
  | _ => exact ⟨twins, rfl⟩

theorem Twins.takeStageTwo
    (twins : Twins walker other) (params : Params) (registers : Registers)
    (result : StageTwoResult) :
    Matched Twins (takeStageTwo params registers result walker)
      (takeStageTwo params registers result other) := by
  simp only [UpperWalker.takeStageTwo, twins.state]
  cases walker.state with
  | lastWait walk =>
      exact finish_twins params registers walk false false (some result) walker other
  | tableWait walk =>
      dsimp only
      split
      · exact ⟨rfl, rfl⟩
      · split
        · exact ⟨rfl, rfl⟩
        · exact ⟨rfl, rfl⟩
  | _ => exact ⟨twins, rfl⟩

theorem Twins.tick
    (twins : Twins walker other) (params : Params) (registers : Registers)
    (protection : Protection) :
    Matched Twins (tick params registers protection walker)
      (tick params registers protection other) := by
  rw [tick_eq_kind, tick_eq_kind]
  have same : kind.Twins walker other := twins
  exact same.tick params registers protection

end UpperWalker

/-! ## The second-stage walker -/

namespace StageTwoWalker

/-- Two second-stage walkers are at the same point of the same walk. -/
def Twins (walker other : StageTwoWalker) : Prop :=
  other.state = walker.state

variable {walker other : StageTwoWalker}

theorem Twins.state (twins : Twins walker other) : other.state = walker.state :=
  twins

theorem Twins.ready (twins : Twins walker other) : other.ready = walker.ready :=
  congrArg (· == StageTwoState.idle) twins

theorem Twins.reply (twins : Twins walker other) : other.reply? = walker.reply? := by
  simp only [reply?, twins.state]

theorem Twins.refill (twins : Twins walker other) : other.refill? = walker.refill? := by
  funext block
  simp only [refill?, twins.state]

theorem Twins.memoryRequest (twins : Twins walker other) :
    other.memoryRequest? = walker.memoryRequest? := by
  funext params
  simp only [memoryRequest?, twins.state]

private theorem finish_twins
    (params : Params) (registers : Registers) (walk : GuestWalk) (pte : Pte)
    (pageFault accessFault : Bool) (walker other : StageTwoWalker) :
    Matched Twins (finish params registers walk pte pageFault accessFault walker)
      (finish params registers walk pte pageFault accessFault other) :=
  ⟨rfl, rfl⟩

theorem Twins.accept
    (twins : Twins walker other) (params : Params) (registers : Registers)
    (request : StageTwoRequest) :
    Matched Twins (accept params registers request walker)
      (accept params registers request other) := by
  unfold StageTwoWalker.accept
  rw [twins.ready]
  by_cases ready : walker.ready = true
  · simp only [if_pos ready]
    refine Matched.andThen ⟨rfl, rfl⟩ fun state twin next => ?_
    split
    · exact finish_twins params registers _ {} true false state twin
    · exact ⟨next, rfl⟩
  · simp only [if_neg ready]
    exact ⟨twins, rfl⟩

theorem Twins.takeReply (twins : Twins walker other) (params : Params) :
    Matched Twins (takeReply params walker) (takeReply params other) := by
  simp only [StageTwoWalker.takeReply, reply?, twins.state]
  cases walker.state with
  | respond reply => exact ⟨rfl, rfl⟩
  | _ => exact ⟨twins, rfl⟩

theorem Twins.fireMemory (twins : Twins walker other) (params : Params) :
    Matched Twins (fireMemory params walker) (fireMemory params other) := by
  rw [fireMemory_eq_kind, fireMemory_eq_kind]
  have same : kind.Twins walker other := twins
  exact same.fireMemory params

private theorem follow_twins
    (params : Params) (registers : Registers) (walk : GuestWalk) (pte : Pte)
    (walker other : StageTwoWalker) :
    Matched Twins (follow params registers walk pte walker)
      (follow params registers walk pte other) := by
  simp only [follow]
  split
  · exact finish_twins params registers walk pte false true walker other
  · split
    · exact finish_twins params registers walk pte true false walker other
    · split
      · exact finish_twins params registers walk pte false false walker other
      · exact ⟨rfl, rfl⟩

theorem Twins.takeBlock
    (twins : Twins walker other) (params : Params) (registers : Registers) (block : Block) :
    Matched Twins (takeBlock params registers block walker)
      (takeBlock params registers block other) := by
  simp only [StageTwoWalker.takeBlock, twins.state]
  cases walker.state with
  | memoryWait walk address =>
      refine Matched.andThen ⟨twins, rfl⟩ fun state twin _ => ?_
      exact follow_twins params registers walk _ state twin
  | _ => exact ⟨twins, rfl⟩

theorem Twins.tick
    (twins : Twins walker other) (params : Params) (registers : Registers)
    (protection : Protection) :
    Matched Twins (tick params registers protection walker)
      (tick params registers protection other) := by
  rw [tick_eq_kind, tick_eq_kind]
  have same : kind.Twins walker other := twins
  exact same.tick params registers protection

end StageTwoWalker

/-! ## The leaf walker -/

namespace LeafWalker

/-- Two leaf walkers have the same entries, and their arbiters go on from the same
places. -/
structure Twins (walker other : LeafWalker) : Prop where
  entries : other.entries = walker.entries
  memoryArbiter : other.memoryArbiter = walker.memoryArbiter
  tableArbiter : other.tableArbiter = walker.tableArbiter
  lastArbiter : other.lastArbiter = walker.lastArbiter
  stageTwoBusy : other.stageTwoBusy = walker.stageTwoBusy

/-- The walker that has counted nothing. -/
private def uncounted (walker : LeafWalker) : LeafWalker where
  entries := walker.entries
  memoryArbiter := walker.memoryArbiter
  tableArbiter := walker.tableArbiter
  lastArbiter := walker.lastArbiter
  stageTwoBusy := walker.stageTwoBusy

variable {walker other : LeafWalker}

private theorem Twins.view
    {View : Type} (twins : Twins walker other) (view : LeafWalker → View) :
    view other.uncounted = view walker.uncounted := by
  simp only [uncounted, twins.entries, twins.memoryArbiter, twins.tableArbiter,
    twins.lastArbiter, twins.stageTwoBusy]

theorem Twins.entry (twins : Twins walker other) : other.entry = walker.entry :=
  twins.view LeafWalker.entry

theorem Twins.indices (twins : Twins walker other) : other.indices = walker.indices :=
  twins.view LeafWalker.indices

theorem Twins.freeIndex (twins : Twins walker other) :
    other.freeIndex? = walker.freeIndex? :=
  twins.view LeafWalker.freeIndex?

theorem Twins.ready (twins : Twins walker other) : other.ready = walker.ready :=
  twins.view LeafWalker.ready

theorem Twins.sibling (twins : Twins walker other) : other.sibling? = walker.sibling? :=
  twins.view LeafWalker.sibling?

theorem Twins.memoryChoice (twins : Twins walker other) :
    other.memoryChoice? = walker.memoryChoice? :=
  twins.view LeafWalker.memoryChoice?

theorem Twins.memoryRequest (twins : Twins walker other) :
    other.memoryRequest? = walker.memoryRequest? :=
  twins.view LeafWalker.memoryRequest?

theorem Twins.refill (twins : Twins walker other) : other.refill? = walker.refill? :=
  twins.view LeafWalker.refill?

theorem Twins.wantsStageTwo (twins : Twins walker other) :
    other.wantsStageTwo = walker.wantsStageTwo :=
  twins.view LeafWalker.wantsStageTwo

theorem Twins.tableChoice (twins : Twins walker other) :
    other.tableChoice? = walker.tableChoice? :=
  twins.view LeafWalker.tableChoice?

theorem Twins.lastChoice (twins : Twins walker other) :
    other.lastChoice? = walker.lastChoice? :=
  twins.view LeafWalker.lastChoice?

theorem Twins.stageTwoRequest (twins : Twins walker other) :
    other.stageTwoRequest? = walker.stageTwoRequest? :=
  twins.view LeafWalker.stageTwoRequest?

theorem Twins.finishedIndex (twins : Twins walker other) :
    other.finishedIndex? = walker.finishedIndex? :=
  twins.view LeafWalker.finishedIndex?

theorem Twins.setEntry (twins : Twins walker other) (index : Nat) (entry : LeafEntry) :
    Twins (walker.setEntry index entry) (other.setEntry index entry) :=
  { twins with entries := congrArg (·.setIfInBounds index entry) twins.entries }

/-! ### Operations -/

private theorem Twins.place
    (twins : Twins walker other) (params : Params) (index : Nat) :
    Matched Twins (place params index walker) (place params index other) := by
  unfold LeafWalker.place
  rw [twins.sibling]
  cases walker.sibling? index with
  | none =>
      rw [twins.entry]
      exact ⟨twins.setEntry index _, rfl⟩
  | some sibling =>
      dsimp only
      have shared :
          Twins { walker with sharedRequests := walker.sharedRequests + 1 }
            { other with sharedRequests := other.sharedRequests + 1 } := { twins with }
      rw [shared.entry, twins.entry]
      split
      · exact ⟨shared.setEntry index _, rfl⟩
      · exact ⟨shared.setEntry index _, rfl⟩

private theorem Twins.acceptAt
    (twins : Twins walker other) (params : Params) (index : Nat) (leaf : LeafRequest) :
    Matched Twins (acceptAt params index leaf walker)
      (acceptAt params index leaf other) := by
  have claimed :=
    twins.setEntry index { state := .addressCheck, request := leaf.request, table := leaf.ppn }
  unfold LeafWalker.acceptAt
  dsimp only
  rw [claimed.sibling]
  split
  · exact ⟨{ twins.setEntry index {} with }, rfl⟩
  · refine Matched.andThen ⟨{ claimed with }, rfl⟩ fun state twin next => ?_
    split
    · rw [next.entry]
      exact ⟨next.setEntry index _, rfl⟩
    · exact next.place params index

theorem Twins.accept
    (twins : Twins walker other) (params : Params) (leaf : LeafRequest) :
    Matched Twins (accept params leaf walker) (accept params leaf other) := by
  unfold LeafWalker.accept
  rw [twins.freeIndex]
  cases walker.freeIndex? with
  | none => exact ⟨twins, rfl⟩
  | some index => exact twins.acceptAt params index leaf

theorem Twins.fireMemory (twins : Twins walker other) (params : Params) :
    Matched Twins (fireMemory params walker) (fireMemory params other) := by
  unfold LeafWalker.fireMemory
  rw [twins.memoryChoice]
  cases walker.memoryChoice? with
  | none => exact ⟨twins, rfl⟩
  | some chosen =>
      refine ⟨{ twins with entries := ?_, memoryArbiter := ?_ }, rfl⟩
      · simp only [twins.entry, twins.entries]
      · exact congrArg (·.grant chosen) twins.memoryArbiter

theorem Twins.takeBlock
    (twins : Twins walker other) (params : Params) (id : Nat) (block : Block) :
    Matched Twins (takeBlock params id block walker) (takeBlock params id block other) := by
  unfold LeafWalker.takeBlock
  rw [twins.entries, twins.refill]
  split
  · exact ⟨twins, rfl⟩
  · split
    · exact ⟨twins, rfl⟩
    · refine ⟨?_, rfl⟩
      exact { twins with entries := rfl }

private theorem Twins.fireTable (twins : Twins walker other) (chosen : Nat) :
    Twins (fireTable chosen walker) (fireTable chosen other) := by
  refine { twins with entries := ?_, tableArbiter := ?_ }
  · simp only [LeafWalker.fireTable, twins.entry, twins.entries]
  · exact congrArg (·.grant chosen) twins.tableArbiter

private theorem Twins.fireLast (twins : Twins walker other) (chosen : Nat) :
    Twins (fireLast chosen walker) (fireLast chosen other) := by
  refine { twins with entries := ?_, lastArbiter := ?_ }
  · simp only [LeafWalker.fireLast, twins.entry, twins.entries]
  · exact congrArg (·.grant chosen) twins.lastArbiter

theorem Twins.fireStageTwo (twins : Twins walker other) (params : Params) :
    Matched Twins (fireStageTwo params walker) (fireStageTwo params other) := by
  have counted :
      Twins
        { walker with stageTwoBusy := true, stageTwoRequests := walker.stageTwoRequests + 1 }
        { other with stageTwoBusy := true, stageTwoRequests := other.stageTwoRequests + 1 } :=
    { twins with stageTwoBusy := rfl }
  unfold LeafWalker.fireStageTwo
  rw [twins.wantsStageTwo, twins.tableChoice, twins.lastChoice]
  split
  · exact ⟨twins, rfl⟩
  · dsimp only
    split
    · exact ⟨counted.fireTable _, rfl⟩
    · exact ⟨counted.fireLast _, rfl⟩
    · exact ⟨counted, rfl⟩

private theorem Twins.deliverStageTwo
    (twins : Twins walker other) (params : Params) (id : Nat) (result : StageTwoResult)
    (index : Nat) :
    Matched Twins (deliverStageTwo params id result index walker)
      (deliverStageTwo params id result index other) := by
  unfold LeafWalker.deliverStageTwo
  rw [twins.entry]
  dsimp only
  split
  · split
    · exact ⟨twins.setEntry index _, rfl⟩
    · exact (twins.setEntry index _).place params index
  · split
    · exact ⟨twins.setEntry index _, rfl⟩
    · exact ⟨twins, rfl⟩

theorem Twins.takeStageTwo
    (twins : Twins walker other) (params : Params) (id : Nat) (result : StageTwoResult) :
    Matched Twins (takeStageTwo params id result walker)
      (takeStageTwo params id result other) := by
  unfold LeafWalker.takeStageTwo
  rw [twins.stageTwoBusy, twins.indices]
  split
  · exact ⟨twins, rfl⟩
  · exact Matched.forEach (fun index _ _ _ next => next.deliverStageTwo params id result index)
      { twins with stageTwoBusy := rfl }

theorem Twins.takeFinished (twins : Twins walker other) (params : Params) :
    Matched Twins (takeFinished params walker) (takeFinished params other) := by
  unfold LeafWalker.takeFinished
  rw [twins.finishedIndex]
  cases walker.finishedIndex? with
  | none => exact ⟨twins, rfl⟩
  | some index => exact ⟨twins.setEntry index {}, rfl⟩

private theorem Twins.tickEntry
    (twins : Twins walker other) (params : Params) (protection : Protection) (index : Nat) :
    Matched Twins (tickEntry params protection index walker)
      (tickEntry params protection index other) := by
  have checked :
      Matched Twins (checkAddress params protection index walker)
        (checkAddress params protection index other) := by
    unfold checkAddress
    rw [twins.entry]
    dsimp only
    split
    · split
      · exact ⟨{ twins.setEntry index _ with }, rfl⟩
      · exact ⟨twins.setEntry index _, rfl⟩
    · exact ⟨twins, rfl⟩
  refine checked.andThen fun state twin next => ?_
  unfold watch
  rw [next.entry]
  exact ⟨{ next.setEntry index _ with }, rfl⟩

theorem Twins.tick
    (twins : Twins walker other) (params : Params) (protection : Protection) :
    Matched Twins (tick params protection walker) (tick params protection other) := by
  unfold LeafWalker.tick
  rw [twins.indices]
  refine Matched.andThen (Matched.forEach ?_ twins) fun _ _ next => ⟨{ next with }, rfl⟩
  exact fun index _ _ _ next => next.tickEntry params protection index

theorem Twins.flush (twins : Twins walker other) : Twins walker.flush other.flush where
  entries := by simp only [LeafWalker.flush, twins.entries]
  memoryArbiter := congrArg RoundRobin.reset twins.memoryArbiter
  tableArbiter := congrArg RoundRobin.reset twins.tableArbiter
  lastArbiter := congrArg RoundRobin.reset twins.lastArbiter
  stageTwoBusy := rfl

end LeafWalker

end PageWalk
