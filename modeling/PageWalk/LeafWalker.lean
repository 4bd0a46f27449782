import PageWalk.Outcome
import PageWalk.Params
import PageWalk.Protection
import PageWalk.RoundRobin
import PageWalk.Statistics
import PageWalk.Watchdog

/-!
# The leaf walker

Fetches leaf sectors for several lookups at a time, one in each entry. Entries of
one sector and one mode share a single read: an entry that finds the block with a
sibling copies it, and one that finds the read on its way joins the wait. Under
nested translation the table page is translated first and the leaf's guest page
last; one second-stage request is on its way at a time, and entries that ask for
the same guest page share it. Entries finish out of order.
-/

namespace PageWalk

/-- What an entry is doing. An entry that waits names the entry whose request it
waits for. -/
inductive LeafState
  | idle
  /-- The table page has to be translated. -/
  | tableRequest
  | tableWait (owner : Nat)
  /-- The address has to be checked. -/
  | addressCheck
  | memoryRequest
  | memoryWait (owner : Nat)
  | finished
  /-- The guest page of the leaf has to be translated. -/
  | lastRequest
  | lastWait (owner : Nat)
deriving DecidableEq, Repr, Inhabited

/-- One leaf walk. -/
structure LeafEntry where
  state : LeafState := .idle
  request : Request := {}
  /-- The table page; a guest page under nested translation. -/
  table : Word := 0
  /-- The page that the table is read from under nested translation. -/
  host : Word := 0
  /-- Protection denied the read. -/
  denied : Bool := false
  block : Option Block := none
  /-- The guest page of the leaf under nested translation. -/
  lastPage : Word := 0
  stageTwo : Option StageTwoResult := none
  watchdog : Watchdog := {}
deriving DecidableEq, Repr

instance : Inhabited LeafEntry := ⟨{}⟩

/-- Whether two lookups are served by the same read. -/
def Request.sharesSector (request other : Request) : Bool :=
  sectorTag request.vpn == sectorTag other.vpn && request.mode == other.mode

namespace LeafEntry

def isIdle (entry : LeafEntry) : Bool :=
  entry.state == .idle

def address (entry : LeafEntry) : Word :=
  let table := if entry.request.mode = .nested then entry.host else entry.table
  entryAddress table (vpnIndex entry.request.vpn 0)

/-- The entry whose read this one waits for. -/
def memoryOwner? (entry : LeafEntry) : Option Nat :=
  match entry.state with
  | .memoryWait owner => some owner
  | _ => none

/-- Whether another entry of the sector can use the read of this one. -/
def hasRead (entry : LeafEntry) : Bool :=
  entry.memoryOwner?.isSome || entry.block.isSome

/-- The entry once its block is there: a good leaf of a nested walk still needs its
guest page translated. -/
def withBlock (entry : LeafEntry) (params : Params) (block : Block) : LeafEntry :=
  let pte : Pte := ⟨leafAt block entry.request.vpn⟩
  let fault :=
    pte.pageFaultAt leafLevel || entry.request.mode.accessFault pte params.addressBits
  if entry.request.mode = .nested && !fault then
    { entry with block := some block, lastPage := pte.ppn, state := .lastRequest }
  else
    { entry with block := some block, state := .finished }

/-- The answer of a finished entry. Without a block, protection denied the read or
the table page has no translation. -/
def response (entry : LeafEntry) (params : Params) (registers : Registers) : Response :=
  let request := entry.request
  let asid := registers.asid request.mode
  let stageOne :=
    match entry.block with
    | some block =>
        StageOneResult.ofBlock request.vpn block entry.denied request.mode params.addressBits
          asid registers.vmid
    | none =>
        StageOneResult.ofPte request.vpn {} leafLevel false entry.denied asid registers.vmid
  { request := request, stageOne := stageOne, stageTwo := entry.stageTwo }

end LeafEntry

structure LeafWalker where
  cycle : Word := 0
  entries : Array LeafEntry
  memoryArbiter : RoundRobin
  tableArbiter : RoundRobin
  lastArbiter : RoundRobin
  /-- A second-stage request is on its way. -/
  stageTwoBusy : Bool := false
  requests : Nat := 0
  memoryRequests : Nat := 0
  sharedRequests : Nat := 0
  droppedPrefetches : Nat := 0
  stageTwoRequests : Nat := 0
  accessFaults : Nat := 0
  timeouts : Nat := 0
deriving DecidableEq, Repr

namespace LeafWalker

/-- A walker with all entries idle. -/
def create (params : Params) : LeafWalker :=
  let arbiter : RoundRobin := { inputs := params.leafWalkerSize.toNat }
  { entries := Array.replicate params.leafWalkerSize.toNat {}
    memoryArbiter := arbiter
    tableArbiter := arbiter
    lastArbiter := arbiter }

def note (walker : LeafWalker) (params : Params) (event : LeafEvent) : Note :=
  ⟨params.leafName, walker.cycle, .leaf event⟩

def misuse (params : Params) (cause : Misuse) (walker : LeafWalker) : Outcome LeafWalker :=
  .stop walker (.misuse params.leafName cause)

/-! ## Entries -/

def entry (walker : LeafWalker) (index : Nat) : LeafEntry :=
  walker.entries.getD index {}

def setEntry (walker : LeafWalker) (index : Nat) (entry : LeafEntry) : LeafWalker :=
  { walker with entries := walker.entries.setIfInBounds index entry }

def indices (walker : LeafWalker) : List Nat :=
  List.range walker.entries.size

def freeIndex? (walker : LeafWalker) : Option Nat :=
  walker.indices.find? fun index => (walker.entry index).isIdle

def ready (walker : LeafWalker) : Bool :=
  walker.freeIndex?.isSome

def busyCount (walker : LeafWalker) : Nat :=
  walker.entries.countP fun entry => !entry.isIdle

def stateAt (walker : LeafWalker) (index : Nat) : Except Fault LeafState :=
  match walker.entries[index]? with
  | some entry => .ok entry.state
  | none => .error .outOfRange

/-- The first other entry of the sector that has the block or waits for it. -/
def sibling? (walker : LeafWalker) (index : Nat) : Option Nat :=
  let request := (walker.entry index).request
  walker.indices.find? fun other =>
    let entry := walker.entry other
    other != index && !entry.isIdle && entry.request.sharesSector request && entry.hasRead

/-- Lets an entry copy the block of a sibling, join a sibling's wait, or go to the
check of its own address. -/
def place (params : Params) (index : Nat) (walker : LeafWalker) : Outcome LeafWalker :=
  let entry := walker.entry index
  match walker.sibling? index with
  | none => { state := walker.setEntry index { entry with state := .addressCheck } }
  | some sibling =>
      let walker := { walker with sharedRequests := walker.sharedRequests + 1 }
      let other := walker.entry sibling
      match other.block with
      | some block =>
          { state := walker.setEntry index (entry.withBlock params block)
            notes := [walker.note params (.copied index entry.request sibling)] }
      | none =>
          let owner := other.memoryOwner?.getD sibling
          { state := walker.setEntry index { entry with state := .memoryWait owner }
            notes := [walker.note params (.joined index entry.request owner)] }

/-! ## Requests -/

def acceptAt (params : Params) (index : Nat) (leaf : LeafRequest) (walker : LeafWalker) :
    Outcome LeafWalker :=
  let request := leaf.request
  let claimed :=
    walker.setEntry index { state := .addressCheck, request := request, table := leaf.ppn }
  match claimed.sibling? index, request.isPrefetch with
  | some sibling, true =>
      { state :=
          { walker.setEntry index {} with
            droppedPrefetches := walker.droppedPrefetches + 1 }
        notes := [walker.note params (.droppedPrefetch request sibling)] }
  | sibling, _ =>
      Outcome.andThen
        { state := { claimed with requests := claimed.requests + 1 }
          notes := [walker.note params (.accepted index request leaf.ppn)] }
        fun walker =>
          if request.mode = .nested && sibling.isNone then
            { state :=
                walker.setEntry index { walker.entry index with state := .tableRequest } }
          else
            place params index walker

/-- Accepts a walk. A prefetch whose sector is already being read is dropped. -/
def accept (params : Params) (leaf : LeafRequest) (walker : LeafWalker) :
    Outcome LeafWalker :=
  match walker.freeIndex? with
  | some index => acceptAt params index leaf walker
  | none => walker.misuse params (.requestWhileFull leaf.request)

/-! ## Memory -/

def inState (walker : LeafWalker) (state : LeafState) (index : Nat) : Bool :=
  (walker.entry index).state == state

def anyInState (walker : LeafWalker) (state : LeafState) : Bool :=
  walker.entries.any fun entry => entry.state == state

def memoryChoice? (walker : LeafWalker) : Option Nat :=
  walker.memoryArbiter.pick (walker.inState .memoryRequest)

def memoryRequest? (walker : LeafWalker) : Option MemoryRequest :=
  walker.memoryChoice?.map fun index => ⟨(walker.entry index).address, index⟩

def memoryRequest (walker : LeafWalker) (params : Params) : Except Fault MemoryRequest :=
  match walker.memoryRequest? with
  | some request => .ok request
  | none => .error (.misuse params.leafName .noMemoryRequest)

/-- Whether an entry can share a read that is sent for a request. -/
def joinsRead (request : Request) (entry : LeafEntry) : Bool :=
  (entry.state == .memoryRequest || entry.state == .addressCheck) &&
    entry.request.sharesSector request

/-- The memory took the request: all entries of the sector wait for it. -/
def fireMemory (params : Params) (walker : LeafWalker) : Outcome LeafWalker :=
  match walker.memoryChoice? with
  | none => walker.misuse params .fireWithoutMemoryRequest
  | some chosen =>
      let request := (walker.entry chosen).request
      let sharers := walker.indices.countP fun index =>
        index != chosen && joinsRead request (walker.entry index)
      { state :=
          { walker with
            memoryArbiter := walker.memoryArbiter.grant chosen
            memoryRequests := walker.memoryRequests + 1
            sharedRequests := walker.sharedRequests + sharers
            entries := walker.entries.map fun entry =>
              if joinsRead request entry then
                { entry with state := .memoryWait chosen }
              else
                entry }
        notes := [walker.note params (.reading chosen request)] }

/-- What the walker tells the cache about the block that the entry `id` waits for. -/
def refill? (walker : LeafWalker) (id : Nat) (block : Block) : Option Refill :=
  let owner := walker.entry id
  if owner.state == .memoryWait id then
    some
      { block := block
        level := leafLevel
        request := owner.request
        selected := ⟨leafAt block owner.request.vpn⟩ }
  else
    none

/-- Hands a block to all entries that wait for the read of the entry `id`. -/
def takeBlock (params : Params) (id : Nat) (block : Block) (walker : LeafWalker) :
    Outcome LeafWalker :=
  if walker.entries.size ≤ id then
    walker.misuse params (.entryOverflow id)
  else
    match walker.refill? id block with
    | none => walker.misuse params (.unexpectedBlock id)
    | some refill =>
        { state :=
            { walker with
              entries := walker.entries.map fun entry =>
                if entry.state == .memoryWait id then entry.withBlock params block else entry }
          notes := [walker.note params (.arrived refill.request id)] }

/-! ## The second stage -/

def wantsStageTwo (walker : LeafWalker) : Bool :=
  !walker.stageTwoBusy && (walker.anyInState .tableRequest || walker.anyInState .lastRequest)

def tableChoice? (walker : LeafWalker) : Option Nat :=
  walker.tableArbiter.pick (walker.inState .tableRequest)

def lastChoice? (walker : LeafWalker) : Option Nat :=
  walker.lastArbiter.pick (walker.inState .lastRequest)

/-- The guest page to translate next: table pages come before leaf pages. -/
def stageTwoRequest? (walker : LeafWalker) : Option StageTwoRequest :=
  match walker.tableChoice?, walker.lastChoice? with
  | some index, _ =>
      let entry := walker.entry index
      some { id := index, gvpn := entry.table, source := entry.request.source }
  | none, some index =>
      let entry := walker.entry index
      some { id := index, gvpn := entry.lastPage, source := entry.request.source }
  | none, none => none

/-- The guest page to translate next, which has to be there. -/
def stageTwoRequest (walker : LeafWalker) (params : Params) : Except Fault StageTwoRequest :=
  match walker.stageTwoRequest? with
  | some request => .ok request
  | none => .error (.misuse params.leafName .noStageTwoRequest)

/-- The translation of a table page was requested: all entries that need the same
page wait for it. -/
def fireTable (chosen : Nat) (walker : LeafWalker) : LeafWalker :=
  let gvpn := (walker.entry chosen).table
  { walker with
    tableArbiter := walker.tableArbiter.grant chosen
    entries := walker.entries.map fun entry =>
      if entry.state == .tableRequest && entry.table == gvpn then
        { entry with state := .tableWait chosen }
      else
        entry }

/-- The translation of a leaf page was requested: all entries that need the same
page wait for it. -/
def fireLast (chosen : Nat) (walker : LeafWalker) : LeafWalker :=
  let gvpn := (walker.entry chosen).lastPage
  { walker with
    lastArbiter := walker.lastArbiter.grant chosen
    entries := walker.entries.map fun entry =>
      if entry.state == .lastRequest && entry.lastPage == gvpn then
        { entry with state := .lastWait chosen }
      else
        entry }

/-- The second-stage request was taken, which has to be there. -/
def fireStageTwo (params : Params) (walker : LeafWalker) : Outcome LeafWalker :=
  if !walker.wantsStageTwo then
    walker.misuse params .fireWithoutStageTwoRequest
  else
    let counted :=
      { walker with stageTwoBusy := true, stageTwoRequests := walker.stageTwoRequests + 1 }
    match walker.tableChoice?, walker.lastChoice? with
    | some chosen, _ =>
        { state := fireTable chosen counted
          notes := [walker.note params (.askedStageTwo chosen)] }
    | none, some chosen =>
        { state := fireLast chosen counted
          notes := [walker.note params (.askedStageTwo chosen)] }
    | none, none => { state := counted }

/-- Hands a translation to the entry at an index if it waits for the entry `id`. -/
def deliverStageTwo (params : Params) (id : Nat) (result : StageTwoResult) (index : Nat)
    (walker : LeafWalker) : Outcome LeafWalker :=
  let entry := walker.entry index
  if entry.state == .tableWait id then
    if result.fault then
      { state :=
          walker.setEntry index { entry with stageTwo := some result, state := .finished } }
    else
      place params index
        (walker.setEntry index
          { entry with host := result.hostPage entry.table, state := .addressCheck })
  else if entry.state == .lastWait id then
    { state :=
        walker.setEntry index { entry with stageTwo := some result, state := .finished } }
  else
    { state := walker }

/-- Hands a translation to all entries that wait for the entry `id`. -/
def takeStageTwo (params : Params) (id : Nat) (result : StageTwoResult)
    (walker : LeafWalker) : Outcome LeafWalker :=
  if !walker.stageTwoBusy then
    walker.misuse params (.stageTwoWhileIdle id)
  else
    Outcome.forEach (deliverStageTwo params id result) walker.indices
      { walker with stageTwoBusy := false }

/-! ## Finished entries -/

def finishedIndex? (walker : LeafWalker) : Option Nat :=
  walker.indices.find? (walker.inState .finished)

def finishedResponse (walker : LeafWalker) (params : Params) (registers : Registers) :
    Except Fault (Nat × Response) :=
  match walker.finishedIndex? with
  | some index => .ok (index, (walker.entry index).response params registers)
  | none => .error (.misuse params.leafName .noFinishedEntry)

def takeFinished (params : Params) (walker : LeafWalker) : Outcome LeafWalker :=
  match walker.finishedIndex? with
  | some index =>
      { state := walker.setEntry index {}
        notes := [walker.note params (.finished index (walker.entry index).request)] }
  | none => walker.misuse params .noFinishedEntry

/-! ## Steps -/

/-- Checks the address of the entry at an index, if it is due. -/
def checkAddress (params : Params) (protection : Protection) (index : Nat)
    (walker : LeafWalker) : Outcome LeafWalker :=
  let entry := walker.entry index
  if entry.state == .addressCheck then
    if (protection entry.address).accessFault then
      { state :=
          { walker.setEntry index { entry with denied := true, state := .finished } with
            accessFaults := walker.accessFaults + 1 }
        notes := [walker.note params (.denied index entry.address)] }
    else
      { state := walker.setEntry index { entry with state := .memoryRequest } }
  else
    { state := walker }

/-- Counts a busy step of the entry at an index and warns when it takes too long. -/
def watch (params : Params) (index : Nat) (walker : LeafWalker) : Outcome LeafWalker :=
  let entry := walker.entry index
  let busy := !entry.isIdle
  let fires := entry.watchdog.fires params.timeoutThreshold busy
  let watchdog := entry.watchdog.tick params.timeoutThreshold busy
  { state :=
      { walker.setEntry index { entry with watchdog := watchdog } with
        timeouts := walker.timeouts + fires.toNat }
    notes :=
      if fires then
        [walker.note params (.overdue index entry.request watchdog.busySteps)]
      else
        [] }

def tickEntry (params : Params) (protection : Protection) (index : Nat)
    (walker : LeafWalker) : Outcome LeafWalker :=
  (checkAddress params protection index walker).andThen (watch params index)

def tick (params : Params) (protection : Protection) (walker : LeafWalker) :
    Outcome LeafWalker :=
  (Outcome.forEach (tickEntry params protection) walker.indices walker).andThen fun walker =>
    { state := { walker with cycle := walker.cycle + 1 } }

def flush (walker : LeafWalker) : LeafWalker :=
  { walker with
    entries := walker.entries.map fun _ => {}
    stageTwoBusy := false
    memoryArbiter := walker.memoryArbiter.reset
    tableArbiter := walker.tableArbiter.reset
    lastArbiter := walker.lastArbiter.reset }

def statistics (walker : LeafWalker) (params : Params) : List Statistic :=
  let unit := params.leafName
  [.ofCount unit ".requests" "Number of leaf walks accepted" walker.requests,
    .ofCount unit ".memRequests" "Number of leaf sector reads" walker.memoryRequests,
    .ofCount unit ".dupRequests" "Number of walks sharing another entry's sector read"
      walker.sharedRequests,
    .ofCount unit ".prefetchDropped" "Number of duplicated prefetch walks dropped"
      walker.droppedPrefetches,
    .ofCount unit ".hptwRequests" "Number of stage-2 translations requested"
      walker.stageTwoRequests,
    .ofCount unit ".accessFaults" "Number of leaf reads denied by pmp" walker.accessFaults,
    .ofRare unit ".timeouts" "Number of entries busy over the timeout threshold"
      walker.timeouts]

end LeafWalker

end PageWalk
