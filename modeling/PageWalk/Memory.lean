import PageWalk.Outcome
import PageWalk.Statistics
import Std.Data.TreeMap

/-!
# Memory

A store of words that answers block reads in order, each after a fixed latency. At
most one read is accepted in a step, and its block is taken at that moment: later
writes do not show. Words that were never written are zero.
-/

namespace PageWalk

/-- A read on its way: its reader, its block, and the cycle from which on it can be
answered. -/
structure PendingRead where
  ready : Word
  id : Nat
  block : Block
deriving DecidableEq, Repr

/-- A block for the reader `id`. -/
structure MemoryReply where
  id : Nat
  block : Block
deriving DecidableEq, Repr

structure Memory where
  name : String := "mem"
  latency : Word := 10
  cycle : Word := 0
  words : Std.TreeMap Word Word := ∅
  /-- The reads on their way, oldest first. -/
  pending : List PendingRead := []
  /-- A read was accepted in this step. -/
  accepted : Bool := false
  /-- Whether accepted reads are kept in `history`. -/
  recording : Bool := false
  history : Array MemoryRequest := #[]
  requests : Nat := 0
  responses : Nat := 0

namespace Memory

/-! ## Words -/

def readWord (memory : Memory) (address : Word) : Word :=
  memory.words.getD address 0

def setWord (memory : Memory) (address data : Word) : Memory :=
  { memory with words := memory.words.insert address data }

/-- Stores a word at an address that must be a multiple of eight. -/
def writeWord (memory : Memory) (address data : Word) : Except Fault Memory :=
  if address % 8 != 0 then .error .unalignedWrite else .ok (memory.setWord address data)

/-- The address of the block that holds an address. -/
def blockAddress (address : Word) : Word :=
  address &&& ~~~(63 : Word)

def readBlock (memory : Memory) (address : Word) : Block :=
  Vector.ofFn fun slot =>
    memory.readWord (blockAddress address + UInt64.ofNat slot.val * 8)

/-! ## Reads -/

def note (memory : Memory) (event : MemoryEvent) : Note :=
  ⟨memory.name, memory.cycle, .memory event⟩

/-- The cycle from which on a read accepted now can be answered. -/
def readyCycle (memory : Memory) : Word :=
  memory.cycle + memory.latency

def accept (memory : Memory) (request : MemoryRequest) : Memory :=
  { memory with
    accepted := true
    requests := memory.requests + 1
    history := if memory.recording then memory.history.push request else memory.history
    pending := memory.pending ++
      [⟨memory.readyCycle, request.id, memory.readBlock request.address⟩] }

/-- Takes a read on unless one was accepted in this step. -/
def send? (memory : Memory) (request : MemoryRequest) : Option (Outcome Memory) :=
  if memory.accepted then
    none
  else
    some
      { state := memory.accept request
        notes := [memory.note (.accepted request memory.readyCycle)] }

/-- The oldest read, if its time has come. -/
def dueReply? (memory : Memory) : Option MemoryReply :=
  match memory.pending with
  | [] => none
  | read :: _ => if memory.cycle < read.ready then none else some ⟨read.id, read.block⟩

def dropOldest (memory : Memory) : Memory :=
  { memory with pending := memory.pending.tail, responses := memory.responses + 1 }

/-- Hands the oldest read out if its time has come. -/
def receive? (memory : Memory) : Option (MemoryReply × Outcome Memory) :=
  memory.dueReply?.map fun reply =>
    (reply, { state := memory.dropOldest, notes := [memory.note (.answered reply.id)] })

/-- One step: the next read can be accepted. -/
def tick (memory : Memory) : Memory :=
  { memory with accepted := false, cycle := memory.cycle + 1 }

def ticks (memory : Memory) (count : Nat) : Memory :=
  count.repeat tick memory

/-! ## Recording and counters -/

def record (memory : Memory) (recording : Bool) : Memory :=
  { memory with recording := recording }

def clearHistory (memory : Memory) : Memory :=
  { memory with history := #[] }

def statistics (memory : Memory) : List Statistic :=
  [.ofCount memory.name ".requests" "Number of block read requests" memory.requests,
    .ofCount memory.name ".responses" "Number of block read responses" memory.responses]

end Memory

end PageWalk
