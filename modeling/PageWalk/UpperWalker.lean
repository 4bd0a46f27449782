import PageWalk.Outcome
import PageWalk.Params
import PageWalk.Protection
import PageWalk.Statistics
import PageWalk.Watchdog

/-!
# The upper walker

Walks levels 0 and 1 of the first-stage table for one lookup at a time and hands the
leaf level on. Under nested translation every table page is a guest page, which is
translated by a second-stage walk before it is read, and a superpage leaf gets a
last second-stage walk for its guest page. A lookup of the second stage alone is a
single second-stage walk.
-/

namespace PageWalk

structure UpperWalk where
  request : Request
  level : Nat := 0
  /-- The table page; a guest page under nested translation. For a lookup of the
  second stage alone, the guest page that is looked up. -/
  table : Word
  /-- The page that the table is read from. -/
  host : Word := 0
  /-- The entry read last. -/
  pte : Pte := {}
deriving DecidableEq, Repr

inductive UpperState
  | idle
  /-- The table page has to be translated. -/
  | tableRequest (walk : UpperWalk)
  | tableWait (walk : UpperWalk)
  /-- The next address has to be formed and checked. -/
  | addressCheck (walk : UpperWalk)
  | memoryRequest (walk : UpperWalk) (address : Word)
  | memoryWait (walk : UpperWalk) (address : Word)
  /-- The guest page of a superpage has to be translated. -/
  | lastRequest (walk : UpperWalk)
  | lastWait (walk : UpperWalk)
  /-- The leaf level has to be handed on. -/
  | dispatch (walk : UpperWalk)
  | respond (response : Response)
deriving DecidableEq, Repr

def UpperState.request : UpperState → Option Request
  | .idle => none
  | .tableRequest walk | .tableWait walk | .addressCheck walk | .memoryRequest walk _
  | .memoryWait walk _ | .lastRequest walk | .lastWait walk | .dispatch walk =>
      some walk.request
  | .respond response => some response.request

structure UpperWalker where
  cycle : Word := 0
  state : UpperState := .idle
  watchdog : Watchdog := {}
  requests : Nat := 0
  memoryRequests : Nat := 0
  stageTwoRequests : Nat := 0
  dispatches : Nat := 0
  pageFaults : Nat := 0
  accessFaults : Nat := 0
  timeouts : Nat := 0
deriving DecidableEq, Repr

namespace UpperWalk

/-- Where a walk starts: at the level-1 table that its request knows, or at the
root. -/
def start (registers : Registers) (request : UpperRequest) : UpperWalk :=
  let lookup := request.request
  if lookup.mode = .stageTwo then
    { request := lookup, table := lookup.vpn }
  else if request.rootHit then
    { request := lookup, level := 1, table := request.ppn, host := request.ppn }
  else
    let root := (registers.stageOneRoot lookup.mode).ppn
    { request := lookup, table := root, host := root }

/-- The state that a walk goes on in once its table page is known. -/
def enterTable (walk : UpperWalk) : UpperState :=
  if walk.request.mode = .nested then .tableRequest walk else .addressCheck walk

def address (walk : UpperWalk) : Word :=
  entryAddress walk.host (tableIndex false walk.request.vpn walk.level)

/-- The guest page of the superpage that the walk has found. -/
def lastPage (walk : UpperWalk) : Word :=
  mergePage walk.pte.ppn walk.request.vpn walk.level

/-- What the walk tells the cache about a block. -/
def refill (walk : UpperWalk) (address : Word) (block : Block) : Refill where
  block := block
  level := walk.level
  request := walk.request
  selected := ⟨entryAt block address⟩

/-- The answer to the lookup. An access fault shows no entry. -/
def response (walk : UpperWalk) (registers : Registers) (pageFault accessFault : Bool)
    (stageTwo : Option StageTwoResult) : Response where
  request := walk.request
  stageOne :=
    StageOneResult.ofPte walk.request.vpn (if accessFault then {} else walk.pte) walk.level
      pageFault accessFault (registers.asid walk.request.mode) registers.vmid
  stageTwo := stageTwo

end UpperWalk

namespace UpperWalker

def note (walker : UpperWalker) (params : Params) (event : UpperEvent) : Note :=
  ⟨params.upperName, walker.cycle, .upper event⟩

def isIdle (walker : UpperWalker) : Bool :=
  walker.state == .idle

def ready (walker : UpperWalker) : Bool :=
  walker.isIdle

def misuse (params : Params) (cause : Misuse) (walker : UpperWalker) : Outcome UpperWalker :=
  .stop walker (.misuse params.upperName cause)

/-! ## Requests and responses -/

def accept (params : Params) (registers : Registers) (request : UpperRequest)
    (walker : UpperWalker) : Outcome UpperWalker :=
  if walker.ready then
    let walk := UpperWalk.start registers request
    let walker := { walker with requests := walker.requests + 1 }
    if walk.request.mode = .stageTwo then
      { state := { walker with state := .tableRequest walk }
        notes := [walker.note params (.acceptedStageTwo walk.request)] }
    else
      { state := { walker with state := walk.enterTable }
        notes := [walker.note params (.accepted walk.request walk.level walk.table)] }
  else
    walker.misuse params (.requestWhileBusy request.request)

/-- Ends a walk with the faults it met. -/
def finish (params : Params) (registers : Registers) (walk : UpperWalk)
    (pageFault accessFault : Bool) (stageTwo : Option StageTwoResult)
    (walker : UpperWalker) : Outcome UpperWalker :=
  let response := walk.response registers pageFault accessFault stageTwo
  { state :=
      { walker with
        state := .respond response
        pageFaults := walker.pageFaults + pageFault.toNat
        accessFaults := walker.accessFaults + accessFault.toNat }
    notes := [walker.note params (.finished response)] }

/-- Ends a walk whose table page has no translation: the answer carries the fault of
the second stage and no slot of the first is valid. -/
def finishGuestFault (params : Params) (registers : Registers) (walk : UpperWalk)
    (stageTwo : StageTwoResult) (walker : UpperWalker) : Outcome UpperWalker :=
  let response := walk.response registers false false (some stageTwo)
  let response := { response with stageOne := response.stageOne.invalidated }
  { state := { walker with state := .respond response }
    notes := [walker.note params (.finished response)] }

/-- Ends a lookup of the second stage alone. -/
def finishStageTwo (params : Params) (walk : UpperWalk) (stageTwo : StageTwoResult)
    (walker : UpperWalker) : Outcome UpperWalker :=
  let response : Response := { request := walk.request, stageTwo := some stageTwo }
  { state := { walker with state := .respond response }
    notes := [walker.note params (.finishedStageTwo response)] }

def response? (walker : UpperWalker) : Option Response :=
  match walker.state with
  | .respond response => some response
  | _ => none

def takeResponse (params : Params) (walker : UpperWalker) : Outcome UpperWalker :=
  match walker.response? with
  | some _ => { state := { walker with state := .idle } }
  | none => walker.misuse params .fireWithoutResponse

/-- The leaf walk that has to be handed on. -/
def dispatch? (walker : UpperWalker) : Option LeafRequest :=
  match walker.state with
  | .dispatch walk => some ⟨walk.request, walk.pte.ppn⟩
  | _ => none

def takeDispatch (params : Params) (walker : UpperWalker) : Outcome UpperWalker :=
  match walker.dispatch? with
  | some leaf =>
      { state := { walker with state := .idle, dispatches := walker.dispatches + 1 }
        notes := [walker.note params (.dispatched leaf.request leaf.ppn)] }
  | none => walker.misuse params .fireWithoutDispatch

/-! ## Memory -/

def memoryRequest? (walker : UpperWalker) (params : Params) : Option MemoryRequest :=
  match walker.state with
  | .memoryRequest _ address => some ⟨address, params.upperId⟩
  | _ => none

/-- The memory took the request, which has to be there. -/
def fireMemory (params : Params) (walker : UpperWalker) : Outcome UpperWalker :=
  match walker.state with
  | .memoryRequest walk address =>
      { state :=
          { walker with
            state := .memoryWait walk address
            memoryRequests := walker.memoryRequests + 1 } }
  | _ => walker.misuse params .fireWithoutMemoryRequest

/-- What the walker tells the cache about the block it waits for. -/
def refill? (walker : UpperWalker) (block : Block) : Option Refill :=
  match walker.state with
  | .memoryWait walk address => some (walk.refill address block)
  | _ => none

/-- Goes on with the entry that a walk has read: a fault or a leaf ends it, the
pointer of level 1 is handed on, and any other pointer names the next table. -/
def follow (params : Params) (registers : Registers) (walk : UpperWalk)
    (walker : UpperWalker) : Outcome UpperWalker :=
  let pte := walk.pte
  if walk.request.mode.accessFault pte params.addressBits then
    finish params registers walk false true none walker
  else if pte.pageFaultAt walk.level then
    finish params registers walk true false none walker
  else if pte.isLeaf then
    if walk.request.mode = .nested then
      { state := { walker with state := .lastRequest walk } }
    else
      finish params registers walk false false none walker
  else if walk.level = 1 then
    { state := { walker with state := .dispatch walk } }
  else
    let next := { walk with level := walk.level + 1, table := pte.ppn, host := pte.ppn }
    { state := { walker with state := next.enterTable } }

/-- Goes on with the entry of the block that the walker waits for. -/
def takeBlock (params : Params) (registers : Registers) (block : Block)
    (walker : UpperWalker) : Outcome UpperWalker :=
  match walker.state with
  | .memoryWait walk address =>
      let walk := { walk with pte := ⟨entryAt block address⟩ }
      Outcome.andThen
        { state := walker, notes := [walker.note params (.read walk.level walk.pte)] }
        (follow params registers walk)
  | _ => walker.misuse params .blockNotAwaited

/-! ## The second stage -/

def stageTwoRequest? (walker : UpperWalker) (params : Params) : Option StageTwoRequest :=
  match walker.state with
  | .tableRequest walk =>
      some { id := params.upperId, gvpn := walk.table, source := walk.request.source }
  | .lastRequest walk =>
      some { id := params.upperId, gvpn := walk.lastPage, source := walk.request.source }
  | _ => none

def awaitedPage? (walker : UpperWalker) : Option Word :=
  match walker.state with
  | .tableWait walk => some walk.table
  | .lastWait walk => some walk.lastPage
  | _ => none

/-- The second-stage request was taken, which has to be there. -/
def fireStageTwo (params : Params) (walker : UpperWalker) : Outcome UpperWalker :=
  let counted := { walker with stageTwoRequests := walker.stageTwoRequests + 1 }
  match walker.state with
  | .tableRequest walk => { state := { counted with state := .tableWait walk } }
  | .lastRequest walk => { state := { counted with state := .lastWait walk } }
  | _ => walker.misuse params .fireWithoutStageTwoRequest

/-- Goes on with the translation that the walker waits for. -/
def takeStageTwo (params : Params) (registers : Registers) (result : StageTwoResult)
    (walker : UpperWalker) : Outcome UpperWalker :=
  match walker.state with
  | .lastWait walk => finish params registers walk false false (some result) walker
  | .tableWait walk =>
      if walk.request.mode = .stageTwo then
        finishStageTwo params walk result walker
      else if result.fault then
        finishGuestFault params registers walk result walker
      else
        let walk := { walk with host := result.hostPage walk.table }
        { state := { walker with state := .addressCheck walk } }
  | _ => walker.misuse params .stageTwoNotAwaited

/-! ## Steps -/

def checkAddress (params : Params) (registers : Registers) (protection : Protection)
    (walker : UpperWalker) : Outcome UpperWalker :=
  match walker.state with
  | .addressCheck walk =>
      if (protection walk.address).accessFault then
        Outcome.andThen
          { state := walker, notes := [walker.note params (.denied walk.address)] }
          (finish params registers walk false true none)
      else
        { state := { walker with state := .memoryRequest walk walk.address } }
  | _ => { state := walker }

def watch (params : Params) (walker : UpperWalker) : Outcome UpperWalker :=
  let busy := !walker.isIdle
  let fires := walker.watchdog.fires params.timeoutThreshold busy
  let watchdog := walker.watchdog.tick params.timeoutThreshold busy
  { state :=
      { walker with watchdog := watchdog, timeouts := walker.timeouts + fires.toNat }
    notes :=
      if fires then
        [walker.note params (.overdue (walker.state.request.getD {}) watchdog.busySteps)]
      else
        [] }

def tick (params : Params) (registers : Registers) (protection : Protection)
    (walker : UpperWalker) : Outcome UpperWalker :=
  (walker.checkAddress params registers protection).andThen fun walker =>
    (walker.watch params).andThen fun walker =>
      { state := { walker with cycle := walker.cycle + 1 } }

def flush (walker : UpperWalker) : UpperWalker :=
  { walker with state := .idle, watchdog := {} }

def statistics (walker : UpperWalker) (params : Params) : List Statistic :=
  let unit := params.upperName
  [.ofCount unit ".requests" "Number of walks accepted" walker.requests,
    .ofCount unit ".memRequests" "Number of non-leaf PTE reads" walker.memoryRequests,
    .ofCount unit ".hptwRequests" "Number of stage-2 translations requested"
      walker.stageTwoRequests,
    .ofCount unit ".dispatches" "Number of walks handed to the last level walker"
      walker.dispatches,
    .ofCount unit ".pageFaults" "Number of walks ending in a page fault" walker.pageFaults,
    .ofCount unit ".accessFaults" "Number of walks ending in an access fault"
      walker.accessFaults,
    .ofRare unit ".timeouts" "Number of walks busy over the timeout threshold"
      walker.timeouts]

end UpperWalker

end PageWalk
