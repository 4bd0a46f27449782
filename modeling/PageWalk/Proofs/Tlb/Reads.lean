import PageWalk.Proofs.Tlb.Commands

/-!
# Reads on their way

The memory answers in order, so the reads of one reader that a flush has made stale
are always its oldest ones. `ReadsTracked` says that the TLB counts them right, and
that besides the stale ones there is one read for a reader that waits for a block,
and none for any other reader.
-/

namespace PageWalk

/-! ## Serial numbers -/

namespace Memory

theorem serialsFrom_append (id serial : Nat) (reads others : List PendingRead) :
    serialsFrom id serial (reads ++ others) =
      serialsFrom id serial reads ++ serialsFrom id (serial + reads.length) others := by
  induction reads generalizing serial with
  | nil => rfl
  | cons read reads inductionHypothesis =>
      have shift : serial + (reads.length + 1) = serial + 1 + reads.length := by omega
      simp only [List.cons_append, serialsFrom, inductionHypothesis, List.length_cons, shift]
      split <;> rfl

theorem lt_of_mem_serialsFrom
    {id serial tested : Nat} {reads : List PendingRead}
    (member : tested ∈ serialsFrom id serial reads) : tested < serial + reads.length := by
  induction reads generalizing serial with
  | nil => cases member
  | cons read reads inductionHypothesis =>
      simp only [serialsFrom] at member
      rw [List.length_cons]
      split at member
      · rcases List.mem_cons.1 member with here | later
        · omega
        · have := inductionHypothesis later
          omega
      · have := inductionHypothesis member
        omega

theorem length_serials (memory : Memory) (id : Nat) :
    (memory.serials id).length = (memory.pending.filter (·.id == id)).length := by
  unfold serials
  generalize memory.requests - memory.pending.length = serial
  generalize memory.pending = reads
  induction reads generalizing serial with
  | nil => rfl
  | cons read reads inductionHypothesis =>
      by_cases here : read.id = id
      · simp only [serialsFrom, List.filter_cons, beq_iff_eq, if_pos here, List.length_cons,
          inductionHypothesis]
      · simp only [serialsFrom, List.filter_cons, beq_iff_eq, if_neg here, inductionHypothesis]

/-- Every read on its way was accepted. -/
theorem lt_requests_of_mem_serials
    {memory : Memory} (pending : memory.pending.length ≤ memory.requests) {id tested : Nat}
    (member : tested ∈ memory.serials id) : tested < memory.requests := by
  have := lt_of_mem_serialsFrom member
  omega

theorem serials_congr
    {memory after : Memory} (pending : after.pending = memory.pending)
    (requests : after.requests = memory.requests) (id : Nat) :
    after.serials id = memory.serials id := by
  simp only [serials, pending, requests]

/-- A read that is accepted is the youngest one of its reader. -/
theorem serials_accept
    {memory : Memory} (pending : memory.pending.length ≤ memory.requests)
    (request : MemoryRequest) (id : Nat) :
    (memory.accept request).serials id =
      memory.serials id ++ if request.id = id then [memory.requests] else [] := by
  have start : memory.requests + 1 - (memory.pending.length + 1) =
      memory.requests - memory.pending.length := by omega
  have last : memory.requests - memory.pending.length + memory.pending.length =
      memory.requests := by omega
  simp only [serials, accept, List.length_append, List.length_singleton, start,
    serialsFrom_append, last]
  rfl

/-- The read that is answered is the oldest one of its reader. -/
theorem serials_dropOldest
    {memory : Memory} (pending : memory.pending.length ≤ memory.requests)
    {read : PendingRead} {rest : List PendingRead} (oldest : memory.pending = read :: rest)
    (id : Nat) :
    memory.serials id =
      (if read.id = id then [memory.requests - memory.pending.length] else []) ++
        memory.dropOldest.serials id := by
  rw [oldest, List.length_cons] at pending
  have next : memory.requests - rest.length =
      memory.requests - (rest.length + 1) + 1 := by omega
  simp only [serials, dropOldest, oldest, List.tail_cons, List.length_cons, serialsFrom, next]
  split <;> rfl

theorem dueReply_spec
    {memory : Memory} {reply : MemoryReply} (due : memory.dueReply? = some reply) :
    ∃ read rest, memory.pending = read :: rest ∧ reply = ⟨read.id, read.block⟩ := by
  unfold dueReply? at due
  split at due
  · cases due
  · rename_i read rest oldest
    split at due
    · cases due
    · cases due
      exact ⟨read, rest, oldest, rfl⟩

end Memory

/-! ## Counters of the readers -/

theorem getD_modify_self
    {counts : Array Nat} {id : Nat} (inside : id < counts.size) (change : Nat → Nat) :
    (counts.modify id change).getD id 0 = change (counts.getD id 0) := by
  simp [Array.getD_eq_getD_getElem?, inside, Array.getElem_modify_self]

theorem getD_modify_of_ne
    (counts : Array Nat) {id tested : Nat} (different : tested ≠ id) (change : Nat → Nat) :
    (counts.modify id change).getD tested 0 = counts.getD tested 0 := by
  simp [Array.getD_eq_getD_getElem?, Array.getElem?_modify, different.symm]

namespace Params

/-- The readers are the entries of the leaf walker and the two other walkers, unless
their number does not fit its 32 bits. -/
theorem ids_cases (params : Params) :
    (params.stageTwoId = params.leafWalkerSize.toNat + 1 ∧
        (params.readers = params.leafWalkerSize.toNat + 2 ∨ params.readers = 0)) ∨
      (params.stageTwoId = 0 ∧ params.readers = 1 ∧ 1 < params.leafWalkerSize.toNat) := by
  have below : params.leafWalkerSize.toNat < 2 ^ 32 := params.leafWalkerSize.toNat_lt
  have second : params.stageTwoId = (params.leafWalkerSize.toNat + 1) % 2 ^ 32 :=
    UInt32.toNat_add _ _
  have count : params.readers = (params.leafWalkerSize.toNat + 2) % 2 ^ 32 :=
    UInt32.toNat_add _ _
  omega

/-- A number that a walker reads under is out of range only if the numbers wrap
around. -/
theorem wraps_of_overflow
    {params : Params} {id : Nat} (known : id ≤ params.leafWalkerSize.toNat + 1)
    (outside : params.readers ≤ id) : UInt32.size ≤ params.leafWalkerSize.toNat + 2 := by
  have count : params.readers = (params.leafWalkerSize.toNat + 2) % 2 ^ 32 :=
    UInt32.toNat_add _ _
  have size : UInt32.size = 2 ^ 32 := rfl
  omega

theorem stageTwoId_ne_upperId (params : Params) : params.stageTwoId ≠ params.upperId := by
  unfold upperId
  rcases params.ids_cases with ⟨second, _⟩ | ⟨second, _, large⟩ <;> omega

end Params

/-! ## The account of one reader -/

/-- What is known of one reader: the serial numbers of its reads on their way are as many
as are counted, the stale ones are those from before the last flush, at which the memory
had accepted `readsBefore` reads, and there is one more read if the reader awaits it. -/
structure ReaderAccount
    (readsBefore : Nat) (serials : List Nat) (reads stale : Nat) (awaits : Bool) : Prop where
  counted : serials.length = reads
  old : ∀ serial ∈ serials.take stale, serial < readsBefore
  fresh : ∀ serial ∈ serials.drop stale, readsBefore ≤ serial
  live : reads = stale + awaits.toNat

namespace ReaderAccount

variable {readsBefore reads stale first : Nat} {serials : List Nat} {awaits : Bool}

/-- A reader that has not read yet. -/
theorem start (readsBefore : Nat) : ReaderAccount readsBefore [] 0 0 false :=
  ⟨rfl, fun _ member => (by cases member), fun _ member => (by cases member), rfl⟩

theorem stale_le (account : ReaderAccount readsBefore serials reads stale awaits) :
    stale ≤ serials.length := by
  rw [account.counted, account.live]
  exact Nat.le_add_right _ _

/-- A flush makes every read on its way stale. -/
theorem flush
    (account : ReaderAccount readsBefore serials reads stale awaits) {requests : Nat}
    (accepted : ∀ serial ∈ serials, serial < requests) :
    ReaderAccount requests serials reads reads false where
  counted := account.counted
  old := fun serial member => accepted serial (List.mem_of_mem_take member)
  fresh := by
    rw [← account.counted, List.drop_length]
    intro serial member
    cases member
  live := rfl

/-- A read that is sent is awaited. -/
theorem send
    (account : ReaderAccount readsBefore serials reads stale false) {serial : Nat}
    (young : readsBefore ≤ serial) :
    ReaderAccount readsBefore (serials ++ [serial]) (reads + 1) stale true where
  counted := by
    rw [List.length_append, account.counted]
    rfl
  old := by
    rw [List.take_append_of_le_length account.stale_le]
    exact account.old
  fresh := by
    rw [List.drop_append_of_le_length account.stale_le]
    intro tested member
    rcases List.mem_append.1 member with before | here
    · exact account.fresh tested before
    · rw [List.mem_singleton.1 here]
      exact young
  live := by
    rw [account.live]
    rfl

theorem reads_pos (account : ReaderAccount readsBefore (first :: serials) reads stale awaits) :
    0 < reads := by
  rw [← account.counted]
  exact Nat.succ_pos _

/-- The oldest read of a reader is stale if it is older than the last flush. -/
theorem first_lt (account : ReaderAccount readsBefore (first :: serials) reads stale awaits) :
    first < readsBefore ↔ 0 < stale := by
  cases stale with
  | zero =>
      have young := account.fresh first List.mem_cons_self
      omega
  | succ count =>
      have old := account.old first List.mem_cons_self
      omega

/-- A read that is not stale is awaited. -/
theorem awaits_of_fresh
    (account : ReaderAccount readsBefore (first :: serials) reads 0 awaits) : awaits = true := by
  have positive := account.reads_pos
  rw [account.live, Nat.zero_add] at positive
  cases awaits with
  | true => rfl
  | false => cases positive

/-- With no stale read the read that is awaited is the only one. -/
theorem only (account : ReaderAccount readsBefore serials reads 0 true) : serials.length = 1 := by
  rw [account.counted, account.live]
  rfl

/-- The block of a stale read arrives. -/
theorem drop
    (account : ReaderAccount readsBefore (first :: serials) reads stale awaits)
    (old : 0 < stale) : ReaderAccount readsBefore serials (reads - 1) (stale - 1) awaits := by
  obtain ⟨count, rfl⟩ := Nat.exists_eq_succ_of_ne_zero (Nat.ne_of_gt old)
  have counted := account.counted
  have live := account.live
  rw [List.length_cons] at counted
  refine ⟨by omega, fun serial member => ?_, account.fresh, by omega⟩
  exact account.old serial (List.mem_cons_of_mem first member)

/-- The block of an awaited read arrives. -/
theorem deliver (account : ReaderAccount readsBefore (first :: serials) reads 0 awaits) :
    ReaderAccount readsBefore serials (reads - 1) 0 false := by
  have counted := account.counted
  have live := account.live
  have single := awaits.toNat_le
  rw [List.length_cons] at counted
  refine ⟨by omega, fun serial member => (by cases member), fun serial member => ?_, ?_⟩
  · exact account.fresh serial (List.mem_cons_of_mem first member)
  · rw [Bool.toNat_false]
    omega

end ReaderAccount

namespace Tlb

@[simp]
theorem awaitsBlock_upper (tlb : Tlb) :
    tlb.awaitsBlock tlb.params.upperId = tlb.upper.awaitedAddress?.isSome :=
  if_pos rfl

@[simp]
theorem awaitsBlock_stageTwo (tlb : Tlb) :
    tlb.awaitsBlock tlb.params.stageTwoId = tlb.stageTwo.awaitedAddress?.isSome := by
  unfold awaitsBlock
  rw [if_neg tlb.params.stageTwoId_ne_upperId, if_pos rfl]

theorem awaitsBlock_leaf
    {tlb : Tlb} {id : Nat} (first : id ≠ tlb.params.upperId)
    (second : id ≠ tlb.params.stageTwoId) : tlb.awaitsBlock id = tlb.leaf.awaitsBlock id := by
  unfold awaitsBlock
  rw [if_neg first, if_neg second]

theorem awaitsBlock_of_quiet
    {tlb : Tlb} (upper : tlb.upper.awaitedAddress? = none)
    (stageTwo : tlb.stageTwo.awaitedAddress? = none)
    (leaf : ∀ id, tlb.leaf.awaitsBlock id = false) (id : Nat) : tlb.awaitsBlock id = false := by
  unfold awaitsBlock
  rw [upper, stageTwo, leaf]
  split
  · rfl
  · split <;> rfl

/-- A reader waits as before if its walker does. -/
theorem awaitsBlock_congr
    {tlb after : Tlb} {id : Nat} (params : after.params = tlb.params)
    (upper : id = tlb.params.upperId →
      after.upper.awaitedAddress? = tlb.upper.awaitedAddress?)
    (stageTwo : id = tlb.params.stageTwoId →
      after.stageTwo.awaitedAddress? = tlb.stageTwo.awaitedAddress?)
    (leaf : id ≠ tlb.params.upperId → id ≠ tlb.params.stageTwoId →
      after.leaf.awaitsBlock id = tlb.leaf.awaitsBlock id) :
    after.awaitsBlock id = tlb.awaitsBlock id := by
  unfold awaitsBlock
  rw [params]
  by_cases first : id = tlb.params.upperId
  · rw [if_pos first, if_pos first, upper first]
  · rw [if_neg first, if_neg first]
    by_cases second : id = tlb.params.stageTwoId
    · rw [if_pos second, if_pos second, stageTwo second]
    · rw [if_neg second, if_neg second, leaf first second]

/-- The account of one reader is right. -/
def Accounted (readsBefore : Nat) (tlb : Tlb) (id : Nat) : Prop :=
  ReaderAccount readsBefore (tlb.memory.serials id) (tlb.reads.getD id 0)
    (tlb.staleReads.getD id 0) (tlb.awaitsBlock id)

/-- The counters of the reads on their way are right: every read is that of a walker, and
the account of every reader is right. -/
structure ReadsTracked (readsBefore : Nat) (tlb : Tlb) : Prop where
  pending : tlb.memory.pending.length ≤ tlb.memory.requests
  flushed : readsBefore ≤ tlb.memory.requests
  readers : tlb.reads.size = tlb.params.readers
  staleReaders : tlb.staleReads.size = tlb.params.readers
  known : ∀ read ∈ tlb.memory.pending, read.id ≤ tlb.params.leafWalkerSize.toNat + 1
  accounts : ∀ id < tlb.params.readers, Accounted readsBefore tlb id

/-- The account of one reader stays as it is. -/
structure SameAccount (tlb after : Tlb) (id : Nat) : Prop where
  serials : after.memory.serials id = tlb.memory.serials id
  reads : after.reads.getD id 0 = tlb.reads.getD id 0
  stale : after.staleReads.getD id 0 = tlb.staleReads.getD id 0
  awaits : after.awaitsBlock id = tlb.awaitsBlock id

theorem Accounted.of_same
    {readsBefore id : Nat} {tlb after : Tlb} (account : Accounted readsBefore tlb id)
    (same : SameAccount tlb after id) : Accounted readsBefore after id := by
  unfold Accounted
  rw [same.serials, same.reads, same.stale, same.awaits]
  exact account

/-- The same reads are on their way, and the same readers wait for them. -/
structure SameReads (tlb after : Tlb) : Prop where
  params : after.params = tlb.params
  pending : after.memory.pending = tlb.memory.pending
  requests : after.memory.requests = tlb.memory.requests
  reads : after.reads = tlb.reads
  staleReads : after.staleReads = tlb.staleReads
  upper : after.upper.awaitedAddress? = tlb.upper.awaitedAddress?
  stageTwo : after.stageTwo.awaitedAddress? = tlb.stageTwo.awaitedAddress?
  leaf : ∀ id, after.leaf.awaitsBlock id = tlb.leaf.awaitsBlock id

theorem SameReads.refl (tlb : Tlb) : SameReads tlb tlb :=
  ⟨rfl, rfl, rfl, rfl, rfl, rfl, rfl, fun _ => rfl⟩

theorem SameReads.account
    {tlb after : Tlb} (same : SameReads tlb after) (id : Nat) : SameAccount tlb after id where
  serials := Memory.serials_congr same.pending same.requests id
  reads := by rw [same.reads]
  stale := by rw [same.staleReads]
  awaits := awaitsBlock_congr same.params (fun _ => same.upper) (fun _ => same.stageTwo)
    fun _ _ => same.leaf id

namespace ReadsTracked

variable {readsBefore : Nat} {tlb after : Tlb}

theorem of_same
    (tracked : ReadsTracked readsBefore tlb) (same : SameReads tlb after) :
    ReadsTracked readsBefore after where
  pending := by rw [same.pending, same.requests]; exact tracked.pending
  flushed := by rw [same.requests]; exact tracked.flushed
  readers := by rw [same.reads, same.params]; exact tracked.readers
  staleReaders := by rw [same.staleReads, same.params]; exact tracked.staleReaders
  known := by rw [same.pending, same.params]; exact tracked.known
  accounts := by
    rw [same.params]
    intro id inside
    exact (tracked.accounts id inside).of_same (same.account id)

/-- A flush makes every read on its way stale. -/
theorem flush
    (tracked : ReadsTracked readsBefore tlb) (params : after.params = tlb.params)
    (pending : after.memory.pending = tlb.memory.pending)
    (requests : after.memory.requests = tlb.memory.requests)
    (reads : after.reads = tlb.reads) (stale : after.staleReads = tlb.reads)
    (quiet : ∀ id, after.awaitsBlock id = false) :
    ReadsTracked after.memory.requests after where
  pending := by rw [pending, requests]; exact tracked.pending
  flushed := Nat.le_refl _
  readers := by rw [reads, params]; exact tracked.readers
  staleReaders := by rw [stale, params]; exact tracked.readers
  known := by rw [pending, params]; exact tracked.known
  accounts := by
    intro id inside
    rw [params] at inside
    unfold Accounted
    rw [Memory.serials_congr pending requests, reads, stale, quiet, requests]
    exact (tracked.accounts id inside).flush fun serial member =>
      Memory.lt_requests_of_mem_serials tracked.pending member

/-- All accounts stay right where one is right and those of the other readers stay as they
are. -/
theorem accounts_of_one
    (tracked : ReadsTracked readsBefore tlb) (params : after.params = tlb.params) (id : Nat)
    (others : ∀ other < tlb.params.readers, other ≠ id → SameAccount tlb after other)
    (own : id < tlb.params.readers → Accounted readsBefore after id) :
    ∀ reader < after.params.readers, Accounted readsBefore after reader := by
  rw [params]
  intro reader inside
  by_cases here : reader = id
  · subst here
    exact own inside
  · exact (tracked.accounts reader inside).of_same (others reader inside here)

/-- A read that is sent is the one that its reader waits for. -/
theorem send
    (tracked : ReadsTracked readsBefore tlb) {request : MemoryRequest}
    (known : request.id ≤ tlb.params.leafWalkerSize.toNat + 1)
    (params : after.params = tlb.params)
    (memory : after.memory = tlb.memory.accept request)
    (reads : after.reads = tlb.reads.modify request.id (· + 1))
    (stale : after.staleReads = tlb.staleReads)
    (free : tlb.awaitsBlock request.id = false)
    (waits : after.awaitsBlock request.id = true)
    (others : ∀ id, id ≠ request.id → after.awaitsBlock id = tlb.awaitsBlock id) :
    ReadsTracked readsBefore after := by
  have accepted : after.memory.requests = tlb.memory.requests + 1 := by rw [memory]; rfl
  have longer : after.memory.pending = tlb.memory.pending ++
      [⟨tlb.memory.readyCycle, request.id, tlb.memory.readBlock request.address⟩] := by
    rw [memory]
    rfl
  have serials (id : Nat) :
      after.memory.serials id =
        tlb.memory.serials id ++ if request.id = id then [tlb.memory.requests] else [] := by
    rw [memory]
    exact Memory.serials_accept tracked.pending request id
  refine
    { pending := by
        rw [accepted, longer, List.length_append]
        exact Nat.succ_le_succ tracked.pending
      flushed := by rw [accepted]; exact Nat.le_succ_of_le tracked.flushed
      readers := by rw [reads, params, Array.size_modify]; exact tracked.readers
      staleReaders := by rw [stale, params]; exact tracked.staleReaders
      known := ?_
      accounts := tracked.accounts_of_one params request.id ?_ fun inside => ?_ }
  · rw [longer, params]
    intro read member
    rcases List.mem_append.1 member with before | here
    · exact tracked.known read before
    · rw [List.mem_singleton.1 here]
      exact known
  · intro id _ different
    exact
      { serials := by rw [serials, if_neg different.symm, List.append_nil]
        reads := by rw [reads, getD_modify_of_ne _ different]
        stale := by rw [stale]
        awaits := others id different }
  · have account := tracked.accounts request.id inside
    unfold Accounted at account ⊢
    rw [free] at account
    rw [serials, if_pos rfl, reads, getD_modify_self (by rw [tracked.readers]; exact inside),
      stale, waits]
    exact account.send tracked.flushed

/-- The oldest read of all is the oldest one of its reader. -/
theorem serials_of_oldest
    (tracked : ReadsTracked readsBefore tlb) {read : PendingRead} {rest : List PendingRead}
    (oldest : tlb.memory.pending = read :: rest) :
    tlb.memory.serials read.id =
      (tlb.memory.requests - tlb.memory.pending.length) ::
        tlb.memory.dropOldest.serials read.id := by
  rw [Memory.serials_dropOldest tracked.pending oldest read.id, if_pos rfl]
  rfl

/-- The account of the reader that is answered begins with the oldest read of all. -/
theorem account_of_oldest
    (tracked : ReadsTracked readsBefore tlb) {read : PendingRead} {rest : List PendingRead}
    (oldest : tlb.memory.pending = read :: rest) (inside : read.id < tlb.params.readers) :
    ReaderAccount readsBefore
      ((tlb.memory.requests - tlb.memory.pending.length) ::
        tlb.memory.dropOldest.serials read.id)
      (tlb.reads.getD read.id 0) (tlb.staleReads.getD read.id 0) (tlb.awaitsBlock read.id) := by
  have account := tracked.accounts read.id inside
  unfold Accounted at account
  rw [tracked.serials_of_oldest oldest] at account
  exact account

/-- The memory answers a reader, whose account is right afterwards. -/
theorem receive
    (tracked : ReadsTracked readsBefore tlb) {read : PendingRead} {rest : List PendingRead}
    (oldest : tlb.memory.pending = read :: rest) (params : after.params = tlb.params)
    (memory : after.memory = tlb.memory.dropOldest)
    (reads : after.reads.size = tlb.reads.size)
    (stale : after.staleReads.size = tlb.staleReads.size)
    (others : ∀ id < tlb.params.readers, id ≠ read.id →
      after.reads.getD id 0 = tlb.reads.getD id 0 ∧
        after.staleReads.getD id 0 = tlb.staleReads.getD id 0 ∧
        after.awaitsBlock id = tlb.awaitsBlock id)
    (own : read.id < tlb.params.readers → Accounted readsBefore after read.id) :
    ReadsTracked readsBefore after := by
  have rested : after.memory.pending = rest := by
    rw [memory, Memory.dropOldest, oldest]
    rfl
  have requests : after.memory.requests = tlb.memory.requests := by rw [memory]; rfl
  have bound := tracked.pending
  rw [oldest, List.length_cons] at bound
  refine
    { pending := by rw [rested, requests]; omega
      flushed := by rw [requests]; exact tracked.flushed
      readers := by rw [reads, params]; exact tracked.readers
      staleReaders := by rw [stale, params]; exact tracked.staleReaders
      known := ?_
      accounts := tracked.accounts_of_one params read.id ?_ own }
  · rw [rested, params]
    intro other member
    exact tracked.known other (by rw [oldest]; exact List.mem_cons_of_mem read member)
  · intro id inside different
    obtain ⟨counted, old, awaits⟩ := others id inside different
    have serials : after.memory.serials id = tlb.memory.serials id := by
      rw [memory, Memory.serials_dropOldest tracked.pending oldest id, if_neg different.symm]
      rfl
    exact ⟨serials, counted, old, awaits⟩

end ReadsTracked

end Tlb

end PageWalk
