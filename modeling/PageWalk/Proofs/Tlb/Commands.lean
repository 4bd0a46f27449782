import PageWalk.Tlb.Tick
import PageWalk.Proofs.LeafWalker.Links
import PageWalk.Proofs.StageTwoWalker
import PageWalk.Proofs.UpperWalker

/-!
# Runs of the TLB

What can be done to a TLB from outside, in any order, and what an observer writes
down while it is done: the lookups that were accepted, answered and discarded since
the last flush, and how many reads the memory had accepted when it happened.
-/

namespace PageWalk

/-- What can be done to a TLB and its memory. -/
inductive Command
  | send (request : Request)
  /-- Takes the oldest response, if there is one. -/
  | receive
  | fence (fence : Fence)
  | install (registers : Registers)
  | write (address data : Word)
  | corrupt (level : Nat) (set way : UInt32)
  | tick
deriving DecidableEq, Repr

/-- Whether a command drops every lookup. -/
def Command.flushes : Command → Bool
  | .fence _ => true
  | .install registers => registers.changed
  | _ => false

namespace Tlb

/-! ## Commands -/

def write (address data : Word) (tlb : Tlb) : Outcome Tlb :=
  match tlb.memory.writeWord address data with
  | .ok memory => { state := { tlb with memory := memory } }
  | .error fault => .stop tlb fault

/-- Performs a command. A lookup that is not accepted, and a response that is not
there, change nothing. -/
def perform (command : Command) (tlb : Tlb) : Outcome Tlb :=
  match command with
  | .send request => (tlb.send? request).getD { state := tlb }
  | .receive => { state := (tlb.receive?.map (·.2)).getD tlb }
  | .fence fence => Tlb.fence fence tlb
  | .install registers => install registers tlb
  | .write address data => write address data tlb
  | .corrupt level set way => corrupt level set way tlb
  | .tick => tick tlb

/-- The lookup that a command brings in. -/
def accepts (command : Command) (tlb : Tlb) : List Request :=
  match command with
  | .send request => if (tlb.send? request).isSome then [request] else []
  | _ => []

/-- Only the responses of the TLB change when one is taken. -/
theorem perform_receive (tlb : Tlb) :
    tlb.perform .receive = { state := { tlb with responses := tlb.responses.tail } } := by
  change Outcome.mk ((tlb.receive?.map (·.2)).getD tlb) [] none = _
  unfold Tlb.receive?
  split
  · rename_i none
    have tail : tlb.responses.tail = tlb.responses := by
      rw [none]
      rfl
    rw [tail]
    rfl
  · rename_i response responses found
    rw [found]
    rfl

/-! ## Lookups and reads on their way -/

/-- The lookups among those in the cache that came from outside. -/
def unprobed (lookups : List Lookup) : List Lookup :=
  lookups.filter (!·.probe)

/-- The lookups that the TLB holds: before their first attempt, parked, in the cache,
and in the two walkers of the first stage. -/
def held (tlb : Tlb) : List Request :=
  tlb.inputs.elements ++ tlb.misses.elements.map (·.request) ++
    (unprobed tlb.cache.lookups).map (·.request) ++
    tlb.upper.state.request.toList ++ tlb.leaf.heldRequests

/-- The reader `id` waits for a block. -/
def awaitsBlock (tlb : Tlb) (id : Nat) : Bool :=
  if id = tlb.params.upperId then tlb.upper.awaitedAddress?.isSome
  else if id = tlb.params.stageTwoId then tlb.stageTwo.awaitedAddress?.isSome
  else tlb.leaf.awaitsBlock id

end Tlb

namespace Memory

/-- The positions, in the order in which all reads were accepted, of the reads of one
reader among some consecutive ones. -/
def serialsFrom (id : Nat) : (serial : Nat) → List PendingRead → List Nat
  | _, [] => []
  | serial, read :: reads =>
      if read.id = id then serial :: serialsFrom id (serial + 1) reads
      else serialsFrom id (serial + 1) reads

/-- The reads of one reader on their way, oldest first: for each of them how many
reads the memory had accepted before it. -/
def serials (memory : Memory) (id : Nat) : List Nat :=
  serialsFrom id (memory.requests - memory.pending.length) memory.pending

end Memory

/-! ## What an observer writes down -/

/-- A TLB and what was seen of it since its last flush. -/
structure Journal where
  tlb : Tlb
  /-- The lookups that were accepted. -/
  accepted : List Request := []
  /-- The lookups whose responses were appended. -/
  answered : List Request := []
  /-- The prefetches that the leaf walker dropped. -/
  discarded : List Request := []
  /-- How many reads the memory had accepted at the flush. -/
  readsBefore : Nat

namespace Journal

/-- The journal of a TLB that nothing was done to. -/
def start (tlb : Tlb) : Journal where
  tlb := tlb
  readsBefore := tlb.memory.requests

/-- The journal after a command that left `outcome`. -/
def advance (journal : Journal) (command : Command) (outcome : Outcome Tlb) : Journal :=
  if command.flushes then
    start outcome.state
  else
    { tlb := outcome.state
      accepted := journal.accepted ++ journal.tlb.accepts command
      answered := journal.answered ++
        (outcome.state.responses.drop journal.tlb.responses.length).map (·.request)
      discarded := journal.discarded ++ outcome.discarded
      readsBefore := journal.readsBefore }

/-- Performs a command and writes down what it did. -/
def perform (command : Command) (journal : Journal) : Outcome Journal :=
  let outcome := journal.tlb.perform command
  outcome.map fun _ => journal.advance command outcome

/-- Performs commands until one of them stops the TLB. -/
def run (commands : List Command) (journal : Journal) : Outcome Journal :=
  Outcome.forEach perform commands journal

theorem advance_tlb (journal : Journal) (command : Command) (outcome : Outcome Tlb) :
    (journal.advance command outcome).tlb = outcome.state := by
  unfold advance
  split <;> rfl

/-- Observing a run does not change it. -/
theorem run_tlb (commands : List Command) (journal : Journal) :
    (journal.run commands).map (·.tlb) = Outcome.forEach Tlb.perform commands journal.tlb := by
  unfold run
  induction commands generalizing journal with
  | nil => rfl
  | cons command commands inductionHypothesis =>
      simp only [Outcome.forEach]
      cases stopped : (journal.tlb.perform command).fault with
      | some fault =>
          have observed : (perform command journal).fault = some fault := stopped
          rw [Outcome.andThen_of_stopped _ stopped, Outcome.andThen_of_stopped _ observed]
          simp [perform, Outcome.map, advance_tlb]
      | none =>
          have observed : (perform command journal).fault = none := stopped
          have next := inductionHypothesis (perform command journal).state
          have same : (perform command journal).state.tlb = (journal.tlb.perform command).state :=
            advance_tlb _ _ _
          rw [same] at next
          rw [Outcome.andThen_of_running _ stopped, Outcome.andThen_of_running _ observed,
            ← next]
          rfl

end Journal

end PageWalk
