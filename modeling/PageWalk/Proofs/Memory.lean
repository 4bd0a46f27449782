import Mathlib.Algebra.Group.Nat.Defs
import PageWalk.Proofs.Lockstep.Memory
import PageWalk.Proofs.Outcome

/-!
# Calls on a memory

What a memory answers can be told from the calls on it. A read that is taken on in some step
owes the block of that moment to its reader, and the reads are paid in the order in which they
were taken on, none of them before its latency has passed. Only the oldest read is looked at,
which is enough since the later ones were taken on in later steps.
-/

namespace PageWalk.Memory

/-- A word that is written is read at its address only. -/
theorem readWord_setWord (memory : Memory) (address data tested : Word) :
    (memory.setWord address data).readWord tested =
      if address = tested then data else memory.readWord tested := by
  unfold readWord setWord
  rw [Std.TreeMap.getD_insert]
  simp only [Std.LawfulEqCmp.compare_eq_iff_eq]

/-! ## Calls -/

/-- What can be done with a memory. -/
inductive Call
  | send (request : MemoryRequest)
  | receive
  | tick
  | write (address data : Word)
deriving DecidableEq

/-- A call with its answer: whether the read was taken on, and what was handed out. -/
inductive Exchange
  | send (request : MemoryRequest) (taken : Bool)
  | receive (reply? : Option MemoryReply)
  | tick
  | write (address data : Word)

def Exchange.call : Exchange → Call
  | .send request _ => .send request
  | .receive _ => .receive
  | .tick => .tick
  | .write address data => .write address data

/-- Words can be written at multiples of eight only. -/
def Call.isAligned : Call → Bool
  | .write address _ => address % 8 == 0
  | _ => true

/-- A memory and what was exchanged with it, the latest first. -/
structure Usage where
  memory : Memory
  exchanges : List Exchange := []

def Usage.add (usage : Usage) (exchange : Exchange) (memory : Memory) : Usage where
  memory := memory
  exchanges := exchange :: usage.exchanges

def perform (call : Call) (usage : Usage) : Outcome Usage :=
  match call with
  | .send request =>
      match usage.memory.send? request with
      | none => { state := usage.add (.send request false) usage.memory }
      | some sent => sent.map (usage.add (.send request true))
  | .receive =>
      match usage.memory.receive? with
      | none => { state := usage.add (.receive none) usage.memory }
      | some (reply, received) => received.map (usage.add (.receive (some reply)))
  | .tick => { state := usage.add .tick usage.memory.tick }
  | .write address data =>
      match usage.memory.writeWord address data with
      | .error fault => .stop usage fault
      | .ok memory => { state := usage.add (.write address data) memory }

/-! ## What is owed -/

/-- A reply, and how many steps there were before it was owed or handed out. -/
structure TimedReply where
  time : Nat
  reply : MemoryReply
deriving DecidableEq, Repr

/-- The number of steps. -/
def elapsed : List Exchange → Nat
  | [] => 0
  | .tick :: exchanges => elapsed exchanges + 1
  | _ :: exchanges => elapsed exchanges

/-- The word that was last written to an address, or zero. -/
def lastWritten (address : Word) : List Exchange → Word
  | [] => 0
  | .write here data :: exchanges => if here = address then data else lastWritten address exchanges
  | _ :: exchanges => lastWritten address exchanges

/-- The block around an address, as its words were last written. -/
def lastBlock (address : Word) (exchanges : List Exchange) : Block :=
  Vector.ofFn fun slot =>
    lastWritten (blockAddress address + UInt64.ofNat slot.val * 8) exchanges

/-- What is owed to the reads that were taken on, oldest first. -/
def owed : List Exchange → List TimedReply
  | [] => []
  | .send request true :: exchanges =>
      owed exchanges ++ [⟨elapsed exchanges, request.id, lastBlock request.address exchanges⟩]
  | _ :: exchanges => owed exchanges

/-- What was handed out, oldest first. -/
def paid : List Exchange → List TimedReply
  | [] => []
  | .receive (some reply) :: exchanges => paid exchanges ++ [⟨elapsed exchanges, reply⟩]
  | _ :: exchanges => paid exchanges

/-- A reply is the one that was owed, and it was handed out not before the latency had passed. -/
structure TimedReply.Settles (latency : Nat) (debt payment : TimedReply) : Prop where
  reply : payment.reply = debt.reply
  late : debt.time + latency ≤ payment.time

/-! ## Single calls -/

/-- What a call that does not stop can come to. -/
inductive Performs (memory : Memory) : Exchange → Memory → Prop
  | takes (request : MemoryRequest) (free : memory.accepted = false) :
      Performs memory (.send request true) (memory.accept request)
  | refuses (request : MemoryRequest) (busy : memory.accepted = true) :
      Performs memory (.send request false) memory
  | pays {reply : MemoryReply} (due : memory.dueReply? = some reply) :
      Performs memory (.receive (some reply)) memory.dropOldest
  | owesNothing (early : memory.dueReply? = none) : Performs memory (.receive none) memory
  | ticks : Performs memory .tick memory.tick
  | writes (address data : Word) :
      Performs memory (.write address data) (memory.setWord address data)

theorem performs_of_aligned {call : Call} (usage : Usage) (aligned : call.isAligned = true) :
    ∃ exchange memory, Performs usage.memory exchange memory ∧ exchange.call = call ∧
      (perform call usage).state = usage.add exchange memory ∧
      (perform call usage).fault = none := by
  cases call with
  | send request =>
      cases accepted : usage.memory.accepted with
      | false =>
          refine ⟨_, _, .takes request accepted, rfl, ?_⟩
          simp [perform, send?, accepted, Outcome.map]
      | true =>
          refine ⟨_, _, .refuses request accepted, rfl, ?_⟩
          simp [perform, send?, accepted]
  | receive =>
      cases due : usage.memory.dueReply? with
      | none =>
          refine ⟨_, _, .owesNothing due, rfl, ?_⟩
          simp [perform, receive?, due]
      | some reply =>
          refine ⟨_, _, .pays due, rfl, ?_⟩
          simp [perform, receive?, due, Outcome.map]
  | tick => exact ⟨_, _, .ticks, rfl, rfl, rfl⟩
  | write address data =>
      have whole : address % 8 = 0 := by simpa [Call.isAligned] using aligned
      refine ⟨_, _, .writes address data, rfl, ?_⟩
      simp [perform, writeWord, whole]

theorem stops_of_unaligned {call : Call} (usage : Usage) (unaligned : call.isAligned = false) :
    perform call usage = .stop usage .unalignedWrite := by
  cases call with
  | write address data =>
      have rest : address % 8 ≠ 0 := by simpa [Call.isAligned] using unaligned
      simp [perform, writeWord, rest]
  | send | receive | tick => cases unaligned

/-- The calls are answered one after the other, up to the first write that is not aligned. -/
theorem calls_of_forEach (calls : List Call) (usage : Usage) :
    (Outcome.forEach perform calls usage).state.exchanges.reverse.map Exchange.call =
      usage.exchanges.reverse.map Exchange.call ++ calls.takeWhile Call.isAligned := by
  induction calls generalizing usage with
  | nil => exact (List.append_nil _).symm
  | cons call calls inductionHypothesis =>
      simp only [Outcome.forEach]
      cases aligned : call.isAligned with
      | false =>
          rw [stops_of_unaligned usage aligned, Outcome.andThen_of_stopped _ rfl]
          simp [Outcome.stop, aligned]
      | true =>
          obtain ⟨exchange, memory, _, same, state, running⟩ := performs_of_aligned usage aligned
          rw [Outcome.andThen_state_of_running _ running, state, inductionHypothesis]
          simp [Usage.add, same, aligned]

/-! ## Accounts -/

/-- The read that a debt comes from. -/
def TimedReply.pending (latency : Word) (debt : TimedReply) : PendingRead where
  ready := UInt64.ofNat debt.time + latency
  id := debt.reply.id
  block := debt.reply.block

/-- The debts fall into those that were paid, in order, and those for which a read is on its
way. -/
structure Settled (latency : Word) (usage : Usage) (done waiting : List TimedReply) : Prop where
  split : owed usage.exchanges = done ++ waiting
  settles : List.Forall₂ (TimedReply.Settles latency.toNat) done (paid usage.exchanges)
  pending : usage.memory.pending = waiting.map (TimedReply.pending latency)

/-- A memory is what the exchanges on it say. -/
structure Usage.Sound (latency : Word) (usage : Usage) : Prop where
  delay : usage.memory.latency = latency
  cycle : usage.memory.cycle = UInt64.ofNat (elapsed usage.exchanges)
  words : ∀ address, usage.memory.readWord address = lastWritten address usage.exchanges
  ordered : (owed usage.exchanges).Pairwise (·.time < ·.time)
  past : ∀ debt ∈ owed usage.exchanges, debt.time ≤ elapsed usage.exchanges
  accepted : usage.memory.accepted = true ↔
    ∃ debt ∈ owed usage.exchanges, debt.time = elapsed usage.exchanges
  settled : ∃ done waiting, Settled latency usage done waiting

/-- The steps so far and the latency fit into a word. -/
def Usage.InTime (latency : Word) (usage : Usage) : Prop :=
  elapsed usage.exchanges + latency.toNat < 2 ^ 64

variable {latency : Word} {usage : Usage}

theorem sound_of_new (name : String) (recording : Bool) :
    Usage.Sound latency { memory := { name, latency, recording } } where
  delay := rfl
  cycle := rfl
  words address := Std.TreeMap.getD_emptyc
  ordered := .nil
  past _ member := nomatch member
  accepted := by simp [owed]
  settled := ⟨[], [], rfl, .nil, rfl⟩

theorem Usage.Sound.readBlock (sound : usage.Sound latency) (address : Word) :
    usage.memory.readBlock address = lastBlock address usage.exchanges := by
  simp only [Memory.readBlock, lastBlock, sound.words]

theorem Usage.Sound.cycle_toNat (sound : usage.Sound latency) (inTime : usage.InTime latency) :
    usage.memory.cycle.toNat = elapsed usage.exchanges := by
  rw [sound.cycle]
  exact UInt64.toNat_ofNat_of_lt' (Nat.lt_of_le_of_lt (Nat.le_add_right _ _) inTime)

theorem Usage.Sound.ready_toNat
    (sound : usage.Sound latency) (inTime : usage.InTime latency) {debt : TimedReply}
    (member : debt ∈ owed usage.exchanges) :
    (debt.pending latency).ready.toNat = debt.time + latency.toNat := by
  have past := sound.past debt member
  unfold Usage.InTime at inTime
  simp only [TimedReply.pending, UInt64.toNat_add, UInt64.toNat_ofNat']
  rw [Nat.mod_eq_of_lt (a := debt.time) (by omega)]
  exact Nat.mod_eq_of_lt (by omega)

/-- Nothing is due as long as no unpaid debt is as old as the latency: the oldest one is the
first of them. -/
theorem Usage.Sound.dueReply_eq_none_iff
    (sound : usage.Sound latency) (inTime : usage.InTime latency) {done waiting : List TimedReply}
    (settled : Settled latency usage done waiting) :
    usage.memory.dueReply? = none ↔
      ∀ debt ∈ waiting, elapsed usage.exchanges < debt.time + latency.toNat := by
  rw [Memory.dueReply_eq_none_iff, settled.pending, sound.cycle_toNat inTime]
  cases waiting with
  | nil => simp
  | cons first later =>
      have member : first ∈ owed usage.exchanges := by
        rw [settled.split]
        simp
      have ordered := sound.ordered
      rw [settled.split] at ordered
      have behind := List.pairwise_cons.1 (List.pairwise_append.1 ordered).2.1
      simp only [List.map_cons, List.head?_cons, Option.mem_some_iff, forall_eq',
        sound.ready_toNat inTime member, List.mem_cons, forall_eq_or_imp]
      constructor
      · intro early
        refine ⟨early, fun debt inside => ?_⟩
        have := behind.1 debt inside
        omega
      · exact And.left

/-- A reply that is handed out is the oldest one that is owed, and its latency has passed. -/
theorem Usage.Sound.of_due
    (sound : usage.Sound latency) (inTime : usage.InTime latency) {done waiting : List TimedReply}
    (settled : Settled latency usage done waiting) {reply : MemoryReply}
    (due : usage.memory.dueReply? = some reply) :
    ∃ debt later, waiting = debt :: later ∧ debt.reply = reply ∧
      debt.time + latency.toNat ≤ elapsed usage.exchanges := by
  unfold dueReply? at due
  rw [settled.pending] at due
  cases waiting with
  | nil => cases due
  | cons debt later =>
      have member : debt ∈ owed usage.exchanges := by
        rw [settled.split]
        simp
      simp only [List.map_cons, UInt64.lt_iff_toNat_lt, sound.cycle_toNat inTime,
        sound.ready_toNat inTime member] at due
      split at due
      · cases due
      · exact ⟨debt, later, rfl, Option.some.inj due, by omega⟩

/-! ## Every call keeps the accounts -/

theorem Usage.Sound.takes
    (sound : usage.Sound latency) (request : MemoryRequest)
    (free : usage.memory.accepted = false) :
    (usage.add (.send request true) (usage.memory.accept request)).Sound latency := by
  obtain ⟨done, waiting, settled⟩ := sound.settled
  let debt : TimedReply :=
    ⟨elapsed usage.exchanges, request.id, lastBlock request.address usage.exchanges⟩
  have others : ∀ earlier ∈ owed usage.exchanges, earlier.time < elapsed usage.exchanges := by
    intro earlier member
    refine Nat.lt_of_le_of_ne (sound.past earlier member) fun same => ?_
    have busy := sound.accepted.2 ⟨earlier, member, same⟩
    rw [free] at busy
    cases busy
  refine
    { delay := sound.delay
      cycle := sound.cycle
      words := sound.words
      ordered := ?_
      past := ?_
      accepted := ?_
      settled := ⟨done, waiting ++ [debt], ?_, settled.settles, ?_⟩ }
  · apply List.pairwise_append.2
    refine ⟨sound.ordered, List.pairwise_singleton _ _, fun earlier member last here => ?_⟩
    rw [List.mem_singleton.1 here]
    exact others earlier member
  · intro earlier member
    rcases List.mem_append.1 member with before | here
    · exact sound.past earlier before
    · rw [List.mem_singleton.1 here]
      exact Nat.le_refl _
  · constructor
    · intro _
      exact ⟨debt, List.mem_append_right _ (List.mem_singleton_self _), rfl⟩
    · intro _
      rfl
  · change owed usage.exchanges ++ [debt] = _
    rw [settled.split, List.append_assoc]
  · change usage.memory.pending ++ [_] = _
    rw [settled.pending, sound.readBlock, readyCycle, sound.cycle, sound.delay, List.map_append]
    rfl

theorem Usage.Sound.pays
    (sound : usage.Sound latency) (inTime : usage.InTime latency) {reply : MemoryReply}
    (due : usage.memory.dueReply? = some reply) :
    (usage.add (.receive (some reply)) usage.memory.dropOldest).Sound latency := by
  obtain ⟨done, waiting, settled⟩ := sound.settled
  obtain ⟨debt, later, same, owed, late⟩ := sound.of_due inTime settled due
  refine { sound with settled := ⟨done ++ [debt], later, ?_, ?_, ?_⟩ }
  · change PageWalk.Memory.owed usage.exchanges = _
    rw [settled.split, same, List.append_assoc, List.singleton_append]
  · refine List.rel_append settled.settles (.cons ⟨owed.symm, late⟩ .nil)
  · change usage.memory.pending.tail = _
    rw [settled.pending, same, List.map_cons, List.tail_cons]

theorem Usage.Sound.ticks (sound : usage.Sound latency) :
    (usage.add .tick usage.memory.tick).Sound latency := by
  obtain ⟨done, waiting, settled⟩ := sound.settled
  refine
    { sound with
      cycle := ?_
      past := fun debt member => Nat.le_succ_of_le (sound.past debt member)
      accepted := ?_
      settled := ⟨done, waiting, { settled with }⟩ }
  · change usage.memory.cycle + 1 = UInt64.ofNat (elapsed usage.exchanges + 1)
    rw [sound.cycle, UInt64.ofNat_add]
    rfl
  · constructor
    · intro taken
      cases taken
    · rintro ⟨debt, member, now⟩
      exact absurd now (Nat.ne_of_lt (Nat.lt_succ_of_le (sound.past debt member)))

theorem Usage.Sound.writes (sound : usage.Sound latency) (address data : Word) :
    (usage.add (.write address data) (usage.memory.setWord address data)).Sound latency := by
  obtain ⟨done, waiting, settled⟩ := sound.settled
  refine
    { sound with
      words := fun tested => ?_
      settled := ⟨done, waiting, { settled with }⟩ }
  change (usage.memory.setWord address data).readWord tested =
    if address = tested then data else lastWritten tested usage.exchanges
  rw [readWord_setWord, sound.words tested]

theorem Usage.Sound.performs
    (sound : usage.Sound latency) (inTime : usage.InTime latency) {exchange : Exchange}
    {memory : Memory} (performs : Performs usage.memory exchange memory) :
    (usage.add exchange memory).Sound latency := by
  obtain ⟨done, waiting, settled⟩ := sound.settled
  cases performs with
  | takes request free => exact sound.takes request free
  | refuses | owesNothing => exact { sound with settled := ⟨done, waiting, { settled with }⟩ }
  | pays due => exact sound.pays inTime due
  | ticks => exact sound.ticks
  | writes address data => exact sound.writes address data

/-- Steps are never taken back. -/
theorem elapsed_le_add (exchange : Exchange) (exchanges : List Exchange) :
    elapsed exchanges ≤ elapsed (exchange :: exchanges) := by
  cases exchange with
  | tick => exact Nat.le_succ _
  | send | receive | write => exact Nat.le_refl _

/-- A sound memory that gets so far in time is sound there. -/
theorem sound_of_perform
    (call : Call) (sound : usage.InTime latency → usage.Sound latency) :
    (perform call usage).state.InTime latency → (perform call usage).state.Sound latency := by
  intro inTime
  cases aligned : call.isAligned with
  | false =>
      rw [stops_of_unaligned usage aligned] at inTime ⊢
      exact sound inTime
  | true =>
      obtain ⟨exchange, memory, performs, _, state, _⟩ := performs_of_aligned usage aligned
      rw [state] at inTime ⊢
      have before : usage.InTime latency :=
        Nat.lt_of_le_of_lt (Nat.add_le_add_right (elapsed_le_add exchange _) _) inTime
      exact (sound before).performs before performs

/-- Whatever is done with a new memory, the calls up to a write that is not aligned are answered.
Of the reads that were taken on in different steps the first ones were paid, in this order, with
the blocks as they stood and not before their latency had passed. A read is taken on just if none
was in the same step, and nothing is handed out just if no unpaid read is as old as the
latency. -/
theorem reads_settled
    (name : String) (latency : Word) (recording : Bool) (calls : List Call) :
    let usage :=
      (Outcome.forEach perform calls { memory := { name, latency, recording } }).state
    elapsed usage.exchanges + latency.toNat < 2 ^ 64 →
      usage.exchanges.reverse.map Exchange.call = calls.takeWhile Call.isAligned ∧
      (owed usage.exchanges).Pairwise (·.time < ·.time) ∧
      (∀ request, usage.memory.send? request = none ↔
        ∃ debt ∈ owed usage.exchanges, debt.time = elapsed usage.exchanges) ∧
      ∃ done waiting, owed usage.exchanges = done ++ waiting ∧
        List.Forall₂ (TimedReply.Settles latency.toNat) done (paid usage.exchanges) ∧
        (usage.memory.receive? = none ↔
          ∀ debt ∈ waiting, elapsed usage.exchanges < debt.time + latency.toNat) := by
  intro usage inTime
  let kept (current : Usage) : Prop := current.InTime latency → current.Sound latency
  have step (call : Call) (_ : call ∈ calls) (current : Usage) (before : kept current) :
      kept (perform call current).state := sound_of_perform call before
  have sound : usage.Sound latency :=
    Outcome.forEach_state_induction step (fun _ => sound_of_new name recording) inTime
  obtain ⟨done, waiting, settled⟩ := sound.settled
  refine ⟨calls_of_forEach calls _, sound.ordered, ?_, done, waiting, settled.split,
    settled.settles, ?_⟩
  · intro request
    rw [← sound.accepted]
    simp [send?]
  · rw [← sound.dueReply_eq_none_iff inTime settled]
    simp [receive?]

/-- Two reads are sent again and again until they are taken on, and a word is written over
while the first of them is on its way. -/
theorem reads_settled_of_small_run :
    let calls : List Call :=
      [.write 0x1008 0xabcd, .send ⟨0x1010, 1⟩, .send ⟨0x2000, 2⟩, .tick, .send ⟨0x2000, 2⟩,
        .receive, .write 0x1008 7, .tick, .receive, .receive, .tick, .receive]
    let usage := (Outcome.forEach perform calls { memory := { latency := 2 } }).state
    elapsed usage.exchanges + (2 : Word).toNat < 2 ^ 64 ∧
      usage.exchanges.reverse.map Exchange.call = calls ∧
      (owed usage.exchanges).map (fun debt => (debt.time, debt.reply.id)) = [(0, 1), (1, 2)] ∧
      (paid usage.exchanges).map (fun payment => (payment.time, payment.reply.block[1])) =
        [(2, 0xabcd), (3, 0)] ∧
      List.Forall₂ (TimedReply.Settles 2) (owed usage.exchanges) (paid usage.exchanges) := by
  intro calls usage
  have inTime : elapsed usage.exchanges + (2 : Word).toNat < 2 ^ 64 := by decide
  obtain ⟨answered, _, _, done, waiting, split, settles, _⟩ :=
    reads_settled "mem" 2 false calls inTime
  have all : done.length = (owed usage.exchanges).length :=
    settles.length_eq.trans (by decide : (paid usage.exchanges).length = _)
  have none : waiting = [] := by
    rw [split, List.length_append] at all
    exact List.eq_nil_of_length_eq_zero (by omega)
  rw [none, List.append_nil] at split
  refine ⟨inTime, answered, by decide, by decide, ?_⟩
  rw [split]
  exact settles

end PageWalk.Memory
