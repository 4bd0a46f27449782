import PageWalk.Proofs.Answers
import PageWalk.Proofs.Tlb.Reads

/-!
# Blocks on their way

A reader that waits is answered by the read that it sent last, and the block of that
read is the one that it asked for. So no walk is given a block of a walk that was
flushed, although both have used the same reader number.
-/

namespace PageWalk

namespace Memory

/-- The read of a reader that was accepted last, among those on their way. -/
def youngest? (memory : Memory) (id : Nat) : Option PendingRead :=
  (memory.pending.filter (·.id == id)).getLast?

/-- A read that is accepted is the youngest one of its reader. -/
theorem youngest_accept_self (memory : Memory) (request : MemoryRequest) :
    (memory.accept request).youngest? request.id =
      some ⟨memory.readyCycle, request.id, memory.readBlock request.address⟩ := by
  unfold youngest? accept
  simp only [List.filter_append, List.filter_cons, beq_self_eq_true, if_true, List.filter_nil]
  exact List.getLast?_concat

theorem youngest_accept_of_ne
    (memory : Memory) {request : MemoryRequest} {id : Nat} (different : id ≠ request.id) :
    (memory.accept request).youngest? id = memory.youngest? id := by
  have other : (request.id == id) = false := beq_eq_false_iff_ne.2 different.symm
  unfold youngest? accept
  simp only [List.filter_append, List.filter_cons, other, Bool.false_eq_true, if_false,
    List.filter_nil, List.append_nil]

/-- A read that is still the youngest one after a reply was so before. -/
theorem youngest_dropOldest
    {memory : Memory} {id : Nat} {read : PendingRead}
    (youngest : memory.dropOldest.youngest? id = some read) :
    memory.youngest? id = some read := by
  unfold youngest? dropOldest at youngest
  unfold youngest?
  cases pending : memory.pending with
  | nil =>
      rw [pending] at youngest
      cases youngest
  | cons oldest rest =>
      rw [pending] at youngest
      dsimp only [List.tail_cons] at youngest
      rw [List.filter_cons]
      split
      · rw [List.getLast?_cons, youngest]
        rfl
      · exact youngest

/-- The only read of a reader is its youngest. -/
theorem youngest_of_only
    {memory : Memory} {read : PendingRead} {rest : List PendingRead}
    (oldest : memory.pending = read :: rest) (only : (memory.serials read.id).length = 1) :
    memory.youngest? read.id = some read := by
  have first : memory.pending.filter (·.id == read.id) =
      read :: rest.filter (·.id == read.id) := by
    simp [oldest]
  rw [length_serials, first, List.length_cons] at only
  have none : rest.filter (·.id == read.id) = [] :=
    List.eq_nil_of_length_eq_zero (Nat.succ.inj only)
  unfold youngest?
  rw [first, none]
  rfl

end Memory

def Setting.block (setting : Setting) (address : Word) : Block :=
  Vector.ofFn fun slot =>
    setting.word (Memory.blockAddress address + UInt64.ofNat slot.val * 8)

theorem Setting.readBlock_eq
    {setting : Setting} {memory : Memory} (words : setting.word = memory.readWord)
    (address : Word) : memory.readBlock address = setting.block address := by
  unfold Memory.readBlock Setting.block
  rw [words]

namespace Tlb

/-- If the reader `id` waits for a block, then for this one. -/
structure BlockServes (setting : Setting) (tlb : Tlb) (id : Nat) (block : Block) : Prop where
  upper : id = tlb.params.upperId → ∀ address, tlb.upper.awaitedAddress? = some address →
    block = setting.block address
  stageTwo : id = tlb.params.stageTwoId →
    ∀ address, tlb.stageTwo.awaitedAddress? = some address → block = setting.block address
  leaf : id ≠ tlb.params.upperId → id ≠ tlb.params.stageTwoId →
    tlb.leaf.awaitsBlock id = true →
      setting.Holds (tlb.leaf.entry id).request.mode (tlb.leaf.entry id).request.vpn block

/-- Every walker that waits is answered with the block that it asked for. -/
def ReadsServed (setting : Setting) (tlb : Tlb) : Prop :=
  ∀ id read, tlb.memory.youngest? id = some read → BlockServes setting tlb id read.block

section Kept

variable {setting : Setting} {tlb after : Tlb}

theorem BlockServes.of_quiet
    {id : Nat} {block : Block} (upper : tlb.upper.awaitedAddress? = none)
    (stageTwo : tlb.stageTwo.awaitedAddress? = none)
    (leaf : tlb.leaf.awaitsBlock id = false) : BlockServes setting tlb id block where
  upper := fun _ _ waits => (by cases upper.symm.trans waits)
  stageTwo := fun _ _ waits => (by cases stageTwo.symm.trans waits)
  leaf := fun _ _ waits => (by cases leaf.symm.trans waits)

/-- A reader is served as before if its walker does not start to wait. -/
theorem BlockServes.of_kept
    {id : Nat} {block : Block} (serves : BlockServes setting tlb id block)
    (params : after.params = tlb.params)
    (upper : id = tlb.params.upperId → ∀ address, after.upper.awaitedAddress? = some address →
      tlb.upper.awaitedAddress? = some address)
    (stageTwo : id = tlb.params.stageTwoId →
      ∀ address, after.stageTwo.awaitedAddress? = some address →
        tlb.stageTwo.awaitedAddress? = some address)
    (leaf : after.leaf.awaitsBlock id = true →
      tlb.leaf.awaitsBlock id = true ∧
        (after.leaf.entry id).request = (tlb.leaf.entry id).request) :
    BlockServes setting after id block where
  upper := by
    rw [params]
    exact fun here address waits => serves.upper here address (upper here address waits)
  stageTwo := by
    rw [params]
    exact fun here address waits => serves.stageTwo here address (stageTwo here address waits)
  leaf := by
    rw [params]
    intro first second waits
    obtain ⟨before, same⟩ := leaf waits
    rw [same]
    exact serves.leaf first second before

/-- Reads stay served where no walker starts to wait and no read is accepted. -/
theorem ReadsServed.of_kept
    (served : ReadsServed setting tlb) (params : after.params = tlb.params)
    (youngest : ∀ id read, after.memory.youngest? id = some read →
      tlb.memory.youngest? id = some read)
    (upper : ∀ address, after.upper.awaitedAddress? = some address →
      tlb.upper.awaitedAddress? = some address)
    (stageTwo : ∀ address, after.stageTwo.awaitedAddress? = some address →
      tlb.stageTwo.awaitedAddress? = some address)
    (leaf : LeafWalker.WaitsKept tlb.leaf after.leaf) : ReadsServed setting after :=
  fun id read last =>
    (served id read (youngest id read last)).of_kept params (fun _ => upper)
      (fun _ => stageTwo) (leaf id)

/-- Reads stay served when one is accepted that serves its reader, while all other
readers are served as before. -/
theorem ReadsServed.send
    (served : ReadsServed setting tlb) {request : MemoryRequest}
    (memory : after.memory = tlb.memory.accept request)
    (others : ∀ id block, id ≠ request.id → BlockServes setting tlb id block →
      BlockServes setting after id block)
    (own : BlockServes setting after request.id (tlb.memory.readBlock request.address)) :
    ReadsServed setting after := by
  intro id read last
  rw [memory] at last
  by_cases here : id = request.id
  · rw [here, Memory.youngest_accept_self] at last
    cases last
    rw [here]
    exact own
  · rw [Memory.youngest_accept_of_ne tlb.memory here] at last
    exact others id read.block here (served id read last)

end Kept

end Tlb

end PageWalk
