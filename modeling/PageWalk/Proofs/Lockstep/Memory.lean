import Mathlib.Data.List.Forall2
import PageWalk.Memory

/-!
# Memories in lockstep

A memory that is asked for its oldest read in every step is never behind: at most one
read comes due in a step. So reads from before a flush delay no later one, and a memory
that still has such reads on its way answers all others in the same steps as one
without them.
-/

namespace PageWalk.Memory

/-! ## Reads in time -/

/-- Between two steps: the reads on their way come due in different steps, none of them
should have been answered, and all of them were accepted in earlier steps. A read without
latency comes due in the step after that of its acceptance. -/
structure Timely (memory : Memory) : Prop where
  ordered : memory.pending.Pairwise fun read later => read.ready.toNat < later.ready.toNat
  due : ∀ read ∈ memory.pending,
    memory.cycle.toNat ≤ read.ready.toNat + (1 - memory.latency.toNat)
  earlier : ∀ read ∈ memory.pending,
    read.ready.toNat < memory.cycle.toNat + memory.latency.toNat

/-- The memory after its oldest read was taken, if it was due. -/
def served (memory : Memory) : Memory :=
  if memory.dueReply?.isSome then memory.dropOldest else memory

/-- A step took the oldest read if it was due, and brought at most one new one. -/
inductive Stepped (memory : Memory) : Memory → Prop
  | quiet : Stepped memory memory.served.tick
  | sent (request : MemoryRequest) : Stepped memory (memory.served.accept request).tick

variable {memory other : Memory}

theorem Timely.congr
    (timely : memory.Timely) (pending : other.pending = memory.pending)
    (cycle : other.cycle = memory.cycle) (latency : other.latency = memory.latency) :
    other.Timely := by
  constructor
  · rw [pending]
    exact timely.ordered
  · rw [pending, cycle, latency]
    exact timely.due
  · rw [pending, cycle, latency]
    exact timely.earlier

theorem dueReply_eq_none_iff :
    memory.dueReply? = none ↔
      ∀ read ∈ memory.pending.head?, memory.cycle.toNat < read.ready.toNat := by
  unfold dueReply?
  cases memory.pending with
  | nil => simp
  | cons read rest => simp [UInt64.lt_iff_toNat_lt]

/-- What the oldest read leaves behind comes due in a later step. -/
private theorem Timely.served
    (timely : memory.Timely) :
    memory.served.pending.Pairwise (fun read later => read.ready.toNat < later.ready.toNat) ∧
      ∀ read ∈ memory.served.pending,
        memory.cycle.toNat + 1 ≤ read.ready.toNat + (1 - memory.latency.toNat) ∧
          read.ready.toNat < memory.cycle.toNat + memory.latency.toNat := by
  obtain ⟨ordered, due, earlier⟩ := timely
  unfold Memory.served
  cases reply : memory.dueReply? with
  | none =>
      have later := dueReply_eq_none_iff.1 reply
      refine ⟨ordered, fun read member => ⟨?_, earlier read member⟩⟩
      change read ∈ memory.pending at member
      cases pending : memory.pending with
      | nil => simp [pending] at member
      | cons first rest =>
          rw [pending] at ordered member later
          have head := later first rfl
          rcases List.mem_cons.1 member with rfl | behind
          · omega
          · have := (List.pairwise_cons.1 ordered).1 read behind
            omega
  | some answer =>
      change memory.pending.tail.Pairwise _ ∧ ∀ read ∈ memory.pending.tail, _
      cases pending : memory.pending with
      | nil => simp
      | cons first rest =>
          rw [pending] at ordered due earlier
          obtain ⟨before, others⟩ := List.pairwise_cons.1 ordered
          refine ⟨others, fun read member => ⟨?_, ?_⟩⟩
          · have := before read member
            have := due first List.mem_cons_self
            omega
          · exact earlier read (List.mem_cons_of_mem first member)

@[simp]
private theorem served_cycle (memory : Memory) : memory.served.cycle = memory.cycle := by
  unfold Memory.served
  split <;> rfl

@[simp]
private theorem served_latency (memory : Memory) : memory.served.latency = memory.latency := by
  unfold Memory.served
  split <;> rfl

/-- The cycle and the latency are so small that the next cycle, too, can be told from the
cycles in which reads come due. -/
def Bounded (memory : Memory) : Prop :=
  memory.cycle.toNat + 1 + memory.latency.toNat < UInt64.size

theorem Bounded.next (bounded : memory.Bounded) :
    memory.tick.cycle.toNat = memory.cycle.toNat + 1 := by
  unfold Bounded at bounded
  change (memory.cycle + 1).toNat = _
  rw [UInt64.toNat_add]
  exact Nat.mod_eq_of_lt (Nat.lt_of_le_of_lt (Nat.le_add_right _ _) bounded)

theorem Bounded.ready (bounded : memory.Bounded) :
    memory.readyCycle.toNat = memory.cycle.toNat + memory.latency.toNat := by
  unfold Bounded at bounded
  unfold readyCycle
  rw [UInt64.toNat_add]
  exact Nat.mod_eq_of_lt (Nat.lt_of_le_of_lt (by omega) bounded)

theorem Stepped.accepted
    {after : Memory} (stepped : Stepped memory after) : after.accepted = false := by
  cases stepped with
  | quiet | sent => rfl

theorem Stepped.latency
    {after : Memory} (stepped : Stepped memory after) : after.latency = memory.latency := by
  cases stepped with
  | quiet | sent => exact served_latency memory

theorem Stepped.cycle
    {after : Memory} (stepped : Stepped memory after) (bounded : memory.Bounded) :
    after.cycle.toNat = memory.cycle.toNat + 1 := by
  have same : after.cycle = memory.tick.cycle := by
    cases stepped with
    | quiet | sent => exact congrArg (· + 1) (served_cycle memory)
  rw [same, bounded.next]

theorem Timely.step
    (timely : memory.Timely) (bounded : memory.Bounded) {after : Memory}
    (stepped : Stepped memory after) : after.Timely := by
  obtain ⟨ordered, later⟩ := timely.served
  have latency := stepped.latency
  have cycle := stepped.cycle bounded
  cases stepped with
  | quiet =>
      refine ⟨ordered, fun read member => ?_, fun read member => ?_⟩
      · obtain ⟨late, early⟩ := later read member
        rw [latency, cycle]
        omega
      · obtain ⟨late, early⟩ := later read member
        rw [latency, cycle]
        omega
  | sent request =>
      have ready : memory.served.readyCycle.toNat = memory.cycle.toNat + memory.latency.toNat := by
        rw [← bounded.ready]
        simp only [readyCycle, served_cycle, served_latency]
      have known (read : PendingRead)
          (member : read ∈ (memory.served.accept request).tick.pending) :
          memory.cycle.toNat + 1 ≤ read.ready.toNat + (1 - memory.latency.toNat) ∧
            read.ready.toNat < memory.cycle.toNat + 1 + memory.latency.toNat := by
        rcases List.mem_append.1 member with before | here
        · obtain ⟨late, early⟩ := later read before
          omega
        · rw [List.mem_singleton.1 here]
          dsimp only
          omega
      refine ⟨?_, fun read member => ?_, fun read member => ?_⟩
      · apply List.pairwise_append.2
        refine ⟨ordered, List.pairwise_singleton _ _, fun read before new here => ?_⟩
        rw [List.mem_singleton.1 here]
        obtain ⟨late, early⟩ := later read before
        dsimp only
        omega
      · rw [latency, cycle]
        exact (known read member).1
      · rw [latency, cycle]
        exact (known read member).2

/-- Behind an older read nothing is due. -/
theorem Timely.later
    (timely : memory.Timely) {old rest : List PendingRead}
    (pending : memory.pending = old ++ rest) (behind : old ≠ []) {read : PendingRead}
    (member : read ∈ rest) : memory.cycle.toNat < read.ready.toNat := by
  obtain ⟨ordered, due, earlier⟩ := timely
  obtain ⟨first, others, same⟩ := List.exists_cons_of_ne_nil behind
  subst same
  rw [pending] at ordered due earlier
  have before : first.ready.toNat < read.ready.toNat :=
    (List.pairwise_append.1 ordered).2.2 first List.mem_cons_self read member
  have start := due first List.mem_cons_self
  have last := earlier read (List.mem_append_right _ member)
  omega

/-! ## Two memories -/

/-- Two memories answer the same read, and both have the same time to go until then. -/
structure SameRead (memory other : Memory) (read twin : PendingRead) : Prop where
  id : twin.id = read.id
  block : twin.block = read.block
  ready : read.ready.toNat + other.cycle.toNat = twin.ready.toNat + memory.cycle.toNat

/-- Two memories with the same words have the same reads on their way, apart from the
`old` ones that only the first memory has yet to answer. Their cycles suffice for `left`
steps. -/
structure Trails (left : Nat) (old : List PendingRead) (memory other : Memory) : Prop where
  lasts : memory.cycle.toNat + left + memory.latency.toNat < UInt64.size
  otherLasts : other.cycle.toNat + left + other.latency.toNat < UInt64.size
  latency : other.latency = memory.latency
  words : other.words = memory.words
  accepted : other.accepted = memory.accepted
  recording : other.recording = memory.recording
  history : other.history = memory.history
  pending : ∃ rest, memory.pending = old ++ rest ∧
    List.Forall₂ (SameRead memory other) rest other.pending

variable {left : Nat} {old : List PendingRead}

theorem Trails.readBlock (trails : Trails left old memory other) (address : Word) :
    other.readBlock address = memory.readBlock address := by
  simp only [Memory.readBlock, readWord, trails.words]

/-- How many reads of a reader are on their way. -/
theorem Trails.count (trails : Trails left old memory other) (id : Nat) :
    (memory.pending.filter (·.id == id)).length =
      (old.filter (·.id == id)).length + (other.pending.filter (·.id == id)).length := by
  obtain ⟨rest, pending, same⟩ := trails.pending
  rw [pending, List.filter_append, List.length_append]
  congr 1
  clear pending
  generalize other.pending = twins at same
  induction same with
  | nil => rfl
  | cons here _ inductionHypothesis =>
      simp only [List.filter_cons, here.id]
      split <;> simp [inductionHypothesis]

/-- While an old read is on its way, the other memory has nothing to answer. -/
theorem Trails.waits
    (trails : Trails left old memory other) (timely : memory.Timely) (behind : old ≠ []) :
    other.dueReply? = none := by
  obtain ⟨rest, pending, same⟩ := trails.pending
  apply dueReply_eq_none_iff.2
  intro twin first
  generalize other.pending = twins at same first
  cases same with
  | nil => simp at first
  | cons here others =>
      have later := timely.later pending behind List.mem_cons_self
      have ready := here.ready
      cases first
      omega

/-- Once the old reads are answered, both memories answer the same. -/
theorem Trails.dueReply (trails : Trails left [] memory other) :
    other.dueReply? = memory.dueReply? := by
  obtain ⟨rest, pending, same⟩ := trails.pending
  unfold dueReply?
  rw [pending, List.nil_append]
  generalize other.pending = twins at same
  cases same with
  | nil => rfl
  | cons here others =>
      have ready := here.ready
      dsimp only
      rw [here.id, here.block]
      congr 1
      simp only [UInt64.lt_iff_toNat_lt, eq_iff_iff]
      omega

theorem Trails.dropOld
    {read : PendingRead} (trails : Trails left (read :: old) memory other) :
    Trails left old memory.dropOldest other := by
  obtain ⟨rest, pending, same⟩ := trails.pending
  refine { trails with pending := ⟨rest, ?_, ?_⟩ }
  · simp only [dropOldest, pending, List.cons_append, List.tail_cons]
  · exact same.imp fun _ _ here => { here with }

theorem Trails.dropOldest (trails : Trails left [] memory other) :
    Trails left [] memory.dropOldest other.dropOldest := by
  obtain ⟨rest, pending, same⟩ := trails.pending
  refine { trails with pending := ⟨rest.tail, ?_, ?_⟩ }
  · simp only [Memory.dropOldest, pending, List.nil_append]
  · have tails : List.Forall₂ (SameRead memory other) rest.tail other.pending.tail := by
      generalize other.pending = twins at same
      cases same with
      | nil => exact .nil
      | cons here others => exact others
    exact tails.imp fun _ _ here => { here with }

theorem Trails.bounded (trails : Trails (left + 1) old memory other) :
    memory.Bounded ∧ other.Bounded := by
  have lasts := trails.lasts
  have otherLasts := trails.otherLasts
  unfold Bounded
  omega

theorem Trails.fewer
    {fewer : Nat} (trails : Trails left old memory other) (less : fewer ≤ left) :
    Trails fewer old memory other := by
  have lasts := trails.lasts
  have otherLasts := trails.otherLasts
  exact { trails with lasts := by omega, otherLasts := by omega }

theorem Trails.accept
    (trails : Trails (left + 1) old memory other) (request : MemoryRequest) :
    Trails (left + 1) old (memory.accept request) (other.accept request) := by
  obtain ⟨rest, pending, same⟩ := trails.pending
  obtain ⟨bounded, otherBounded⟩ := trails.bounded
  have ready := bounded.ready
  have otherReady := otherBounded.ready
  have latency := trails.latency
  refine
    { trails with
      accepted := rfl
      history := ?_
      pending := ⟨rest ++ [⟨memory.readyCycle, request.id, memory.readBlock request.address⟩],
        ?_, ?_⟩ }
  · simp only [Memory.accept, trails.recording, trails.history]
  · simp only [Memory.accept, pending, List.append_assoc]
  · refine List.rel_append (same.imp fun _ _ here => { here with }) ?_
    refine .cons ⟨rfl, trails.readBlock request.address, ?_⟩ .nil
    simp only [Memory.accept, ready, otherReady, latency]
    omega

theorem Trails.tick (trails : Trails (left + 1) old memory other) :
    Trails left old memory.tick other.tick := by
  obtain ⟨rest, pending, same⟩ := trails.pending
  have next := trails.bounded.1.next
  have otherNext := trails.bounded.2.next
  have lasts := trails.lasts
  have otherLasts := trails.otherLasts
  refine
    { trails with
      lasts := ?_
      otherLasts := ?_
      accepted := rfl
      pending := ⟨rest, pending, ?_⟩ }
  · rw [next]
    change _ + memory.latency.toNat < _
    omega
  · rw [otherNext]
    change _ + other.latency.toNat < _
    omega
  · refine same.imp fun read twin here => { here with ready := ?_ }
    have ready := here.ready
    omega

theorem Trails.setWord (trails : Trails left old memory other) (address data : Word) :
    Trails left old (memory.setWord address data) (other.setWord address data) := by
  obtain ⟨rest, pending, same⟩ := trails.pending
  refine { trails with words := ?_, pending := ⟨rest, pending, ?_⟩ }
  · simp only [Memory.setWord, trails.words]
  · exact same.imp fun _ _ here => { here with }

/-- A new record of the reads that are accepted from now on. -/
def recorded (memory : Memory) : Memory :=
  (memory.record true).clearHistory

theorem Trails.recorded (trails : Trails left old memory other) :
    Trails left old memory.recorded other.recorded := by
  obtain ⟨rest, pending, same⟩ := trails.pending
  refine { trails with recording := rfl, history := rfl, pending := ⟨rest, pending, ?_⟩ }
  exact same.imp fun _ _ here => { here with }

end PageWalk.Memory
