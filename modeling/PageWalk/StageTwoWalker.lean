import PageWalk.Outcome
import PageWalk.Params
import PageWalk.Protection
import PageWalk.Statistics
import PageWalk.Watchdog

/-!
# The second-stage walker

Translates one guest page at a time through the Sv39x4 table of the running virtual
machine, leaf included. A walk starts at the root, or at the table that its request
already knows. In every step of the walk an address is formed and checked, its block
is read, and the entry either ends the walk or names the next table.
-/

namespace PageWalk

structure GuestWalk where
  request : StageTwoRequest
  level : Nat
  table : Word
deriving DecidableEq, Repr

inductive StageTwoState
  | idle
  /-- The next address has to be formed and checked. -/
  | addressCheck (walk : GuestWalk)
  | memoryRequest (walk : GuestWalk) (address : Word)
  | memoryWait (walk : GuestWalk) (address : Word)
  | respond (reply : StageTwoReply)
deriving DecidableEq, Repr

/-- The guest page of the walk. -/
def StageTwoState.page : StageTwoState → Option Word
  | .idle => none
  | .addressCheck walk | .memoryRequest walk _ | .memoryWait walk _ => some walk.request.gvpn
  | .respond reply => some reply.result.tag

structure StageTwoWalker where
  cycle : Word := 0
  state : StageTwoState := .idle
  watchdog : Watchdog := {}
  requests : Nat := 0
  memoryRequests : Nat := 0
  pageFaults : Nat := 0
  accessFaults : Nat := 0
  timeouts : Nat := 0
deriving DecidableEq, Repr

namespace GuestWalk

/-- Where a walk starts: at the table that its request knows, or at the root. -/
def start (registers : Registers) (request : StageTwoRequest) : GuestWalk :=
  if request.middleHit then ⟨request, 2, request.ppn⟩
  else if request.rootHit then ⟨request, 1, request.ppn⟩
  else ⟨request, 0, registers.hgatp.ppn⟩

def address (walk : GuestWalk) : Word :=
  entryAddress walk.table (tableIndex true walk.request.gvpn walk.level)

/-- The walk at the table that an entry points to. -/
def descend (walk : GuestWalk) (pte : Pte) : GuestWalk :=
  { walk with level := walk.level + 1, table := pte.ppn }

/-- What the walk tells the cache about a block. -/
def refill (walk : GuestWalk) (address : Word) (block : Block) : Refill where
  block := block
  level := walk.level
  request := { vpn := walk.request.gvpn, source := walk.request.source, mode := .stageTwo }
  selected := ⟨entryAt block address⟩

/-- Whether the guest page is wider than the table. -/
def isWide (walk : GuestWalk) : Bool :=
  (walk.request.gvpn >>> guestVpnBits.toUInt64) != 0

end GuestWalk

namespace StageTwoWalker

def note (walker : StageTwoWalker) (params : Params) (event : StageTwoEvent) : Note :=
  ⟨params.stageTwoName, walker.cycle, .stageTwo event⟩

def isIdle (walker : StageTwoWalker) : Bool :=
  walker.state == .idle

def ready (walker : StageTwoWalker) : Bool :=
  walker.isIdle

def misuse (params : Params) (cause : Misuse) (walker : StageTwoWalker) :
    Outcome StageTwoWalker :=
  .stop walker (.misuse params.stageTwoName cause)

/-! ## Requests and replies -/

/-- Ends a walk with the entry it found and the faults it met. -/
def finish (params : Params) (registers : Registers) (walk : GuestWalk) (pte : Pte)
    (pageFault accessFault : Bool) (walker : StageTwoWalker) : Outcome StageTwoWalker :=
  let request := walk.request
  let result :=
    StageTwoResult.ofPte request.gvpn pte walk.level pageFault accessFault registers.vmid
  { state :=
      { walker with
        state := .respond ⟨request.id, result⟩
        pageFaults := walker.pageFaults + pageFault.toNat
        accessFaults := walker.accessFaults + accessFault.toNat }
    notes := [walker.note params
      (.finished request.id request.gvpn walk.level pte.ppn pageFault accessFault)] }

/-- Accepts a walk. A guest page that is too wide is a page fault at once. -/
def accept (params : Params) (registers : Registers) (request : StageTwoRequest)
    (walker : StageTwoWalker) : Outcome StageTwoWalker :=
  if walker.ready then
    let walk := GuestWalk.start registers request
    Outcome.andThen
      { state :=
          { walker with state := .addressCheck walk, requests := walker.requests + 1 }
        notes := [walker.note params (.accepted request walk.level walk.table)] }
      fun walker =>
        if walk.isWide then finish params registers walk {} true false walker
        else { state := walker }
  else
    walker.misuse params (.pageWhileBusy request.gvpn)

def reply? (walker : StageTwoWalker) : Option StageTwoReply :=
  match walker.state with
  | .respond reply => some reply
  | _ => none

def takeReply (params : Params) (walker : StageTwoWalker) : Outcome StageTwoWalker :=
  match walker.reply? with
  | some _ => { state := { walker with state := .idle } }
  | none => walker.misuse params .fireWithoutResponse

/-! ## Memory -/

def memoryRequest? (walker : StageTwoWalker) (params : Params) : Option MemoryRequest :=
  match walker.state with
  | .memoryRequest _ address => some ⟨address, params.stageTwoId⟩
  | _ => none

def fireMemory (params : Params) (walker : StageTwoWalker) : Outcome StageTwoWalker :=
  match walker.state with
  | .memoryRequest walk address =>
      { state :=
          { walker with
            state := .memoryWait walk address
            memoryRequests := walker.memoryRequests + 1 } }
  | _ => walker.misuse params .fireWithoutMemoryRequest

/-- What the walker tells the cache about the block it waits for. -/
def refill? (walker : StageTwoWalker) (block : Block) : Option Refill :=
  match walker.state with
  | .memoryWait walk address => some (walk.refill address block)
  | _ => none

/-- Goes on with the entry that a walk has read: a fault or a leaf ends it, and a pointer
names the next table. -/
def follow (params : Params) (registers : Registers) (walk : GuestWalk) (pte : Pte)
    (walker : StageTwoWalker) : Outcome StageTwoWalker :=
  if pte.beyond params.addressBits then
    finish params registers walk pte false true walker
  else if pte.pageFaultAt walk.level then
    finish params registers walk pte true false walker
  else if pte.isLeaf then
    finish params registers walk pte false false walker
  else
    { state := { walker with state := .addressCheck (walk.descend pte) } }

/-- Goes on with the entry of the block that the walker waits for. -/
def takeBlock (params : Params) (registers : Registers) (block : Block)
    (walker : StageTwoWalker) : Outcome StageTwoWalker :=
  match walker.state with
  | .memoryWait walk address =>
      let pte : Pte := ⟨entryAt block address⟩
      Outcome.andThen
        { state := walker, notes := [walker.note params (.read walk.level pte)] }
        (follow params registers walk pte)
  | _ => walker.misuse params .blockNotAwaited

/-! ## Steps -/

def checkAddress (params : Params) (registers : Registers) (protection : Protection)
    (walker : StageTwoWalker) : Outcome StageTwoWalker :=
  match walker.state with
  | .addressCheck walk =>
      if (protection walk.address).accessFault then
        Outcome.andThen
          { state := walker, notes := [walker.note params (.denied walk.address)] }
          (finish params registers walk {} false true)
      else
        { state := { walker with state := .memoryRequest walk walk.address } }
  | _ => { state := walker }

def watch (params : Params) (walker : StageTwoWalker) : Outcome StageTwoWalker :=
  let busy := !walker.isIdle
  let fires := walker.watchdog.fires params.timeoutThreshold busy
  let watchdog := walker.watchdog.tick params.timeoutThreshold busy
  { state :=
      { walker with watchdog := watchdog, timeouts := walker.timeouts + fires.toNat }
    notes :=
      if fires then
        [walker.note params (.overdue (walker.state.page.getD 0) watchdog.busySteps)]
      else
        [] }

def tick (params : Params) (registers : Registers) (protection : Protection)
    (walker : StageTwoWalker) : Outcome StageTwoWalker :=
  (walker.checkAddress params registers protection).andThen fun walker =>
    (walker.watch params).andThen fun walker =>
      { state := { walker with cycle := walker.cycle + 1 } }

def flush (walker : StageTwoWalker) : StageTwoWalker :=
  { walker with state := .idle, watchdog := {} }

def statistics (walker : StageTwoWalker) (params : Params) : List Statistic :=
  let unit := params.stageTwoName
  [.ofCount unit ".requests" "Number of stage-2 walks" walker.requests,
    .ofCount unit ".memRequests" "Number of stage-2 PTE reads" walker.memoryRequests,
    .ofCount unit ".guestPageFaults" "Number of walks ending in a guest page fault"
      walker.pageFaults,
    .ofCount unit ".guestAccessFaults" "Number of walks ending in a guest access fault"
      walker.accessFaults,
    .ofRare unit ".timeouts" "Number of walks busy over the timeout threshold"
      walker.timeouts]

end StageTwoWalker

end PageWalk
