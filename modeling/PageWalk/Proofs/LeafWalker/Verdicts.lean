import PageWalk.Proofs.Answers
import PageWalk.Proofs.LeafWalker.Blocks

/-!
# What the protection says about shared reads

The leaf walker asks the protection about the leaf entry of the lookup that goes for a
block. Lookups that join the read, or copy its block, are not asked about again: one verdict
serves the whole sector. So every block that an answer is made of was allowed at one leaf
entry of its sector, and the verdict is each lookup's own as long as no protected range
begins or ends inside a block.
-/

namespace PageWalk

/-- The address of the leaf entry of a walk. -/
def LeafRequest.address (leaf : LeafRequest) : Word :=
  entryAddress leaf.ppn (vpnIndex leaf.request.vpn 0)

/-! ## Ranges and blocks -/

/-- No range begins or ends inside a memory block. -/
def ProtectedRanges.KeepBlocks (ranges : ProtectedRanges) : Prop :=
  ∀ range ∈ ranges.denied ++ ranges.devices,
    range.start.toNat % 64 = 0 ∧ range.stop.toNat % 64 = 0

theorem AddressRange.contains_eq_of_block
    {range : AddressRange} (wholeStart : range.start.toNat % 64 = 0)
    (wholeStop : range.stop.toNat % 64 = 0) {address other : Word}
    (same : Memory.blockAddress address = Memory.blockAddress other) :
    range.contains address = range.contains other := by
  have quotients := toNat_div_eq_of_blockAddress same
  have atStart : range.start ≤ address ↔ range.start ≤ other := by
    rw [UInt64.le_iff_toNat_le, UInt64.le_iff_toNat_le]
    omega
  have atStop : address < range.stop ↔ other < range.stop := by
    rw [UInt64.lt_iff_toNat_lt, UInt64.lt_iff_toNat_lt]
    omega
  simp only [contains, atStart, atStop]

/-- Ranges of whole blocks have one verdict for each block. -/
theorem ProtectedRanges.KeepBlocks.check_eq
    {ranges : ProtectedRanges} (keep : ranges.KeepBlocks) {address other : Word}
    (same : Memory.blockAddress address = Memory.blockAddress other) :
    ranges.check address = ranges.check other := by
  have alike (range : AddressRange) (member : range ∈ ranges.denied ++ ranges.devices) :
      range.contains address = range.contains other :=
    AddressRange.contains_eq_of_block (keep range member).1 (keep range member).2 same
  have every (some : List AddressRange) (part : some ⊆ ranges.denied ++ ranges.devices) :
      some.any (·.contains address) = some.any (·.contains other) := by
    rw [Bool.eq_iff_iff, List.any_eq_true, List.any_eq_true]
    exact exists_congr fun range => and_congr_right fun member => by rw [alike range (part member)]
  unfold check
  rw [every _ (List.subset_append_left _ _), every _ (List.subset_append_right _ _)]

namespace LeafWalker

/-! ## One entry -/

/-- What comes to a walker in a run, and what is protected. -/
structure Surroundings where
  brought : LeafRequest → Prop
  /-- The images of the memory that reads are answered with. -/
  images : (Word → Block) → Prop
  protection : Protection

/-- A block that was read for a brought walk of the sector, where the protection allows
it. -/
structure ReadFor (around : Surroundings) (leaf reader : LeafRequest) (block : Block) :
    Prop where
  brought : around.brought reader
  shares : reader.request.sharesSector leaf.request = true
  allowed : (around.protection reader.address).accessFault = false
  answered : ∃ image, around.images image ∧ block = image reader.address

/-- Nothing has come of the walk yet. -/
def Undecided (entry : LeafEntry) : Prop :=
  entry.denied = false ∧ entry.block = none

/-- How far an entry has come with a walk without a second stage. -/
inductive Course (around : Surroundings) (leaf : LeafRequest) (entry : LeafEntry) : Prop
  | due (state : entry.state = .addressCheck) (undecided : Undecided entry)
  | asking (state : entry.state = .memoryRequest) (undecided : Undecided entry)
      (allowed : (around.protection leaf.address).accessFault = false)
  | waiting (owner : Nat) (state : entry.state = .memoryWait owner)
      (undecided : Undecided entry)
  | denied (state : entry.state = .finished) (refused : entry.denied = true)
      (unread : entry.block = none)
      (fault : (around.protection leaf.address).accessFault = true)
  | read (state : entry.state = .finished) (passed : entry.denied = false)
      (reader : LeafRequest) (block : Block) (holds : entry.block = some block)
      (origin : ReadFor around leaf reader block)

/-- An entry that heeds the protection on its way through a walk. -/
structure Heeds (around : Surroundings) (leaf : LeafRequest) (entry : LeafEntry) : Prop where
  request : entry.request = leaf.request
  table : entry.table = leaf.ppn
  course : Course around leaf entry

variable {around : Surroundings} {leaf : LeafRequest} {entry : LeafEntry}

theorem Heeds.address
    (heeds : Heeds around leaf entry) (plain : leaf.request.mode ≠ .nested) :
    entry.address = leaf.address := by
  unfold LeafEntry.address LeafRequest.address
  rw [heeds.request, heeds.table, if_neg plain]

/-- What a watchdog counts is nothing to the walk. -/
theorem Heeds.watched (heeds : Heeds around leaf entry) (watchdog : Watchdog) :
    Heeds around leaf { entry with watchdog := watchdog } where
  request := heeds.request
  table := heeds.table
  course := by
    cases heeds.course with
    | due state undecided => exact .due state undecided
    | asking state undecided allowed => exact .asking state undecided allowed
    | waiting owner state undecided => exact .waiting owner state undecided
    | denied state refused unread fault => exact .denied state refused unread fault
    | read state passed reader block holds origin =>
        exact .read state passed reader block holds origin

/-- An entry that goes for its block, or waits for one, is undecided. -/
theorem Heeds.undecided
    (heeds : Heeds around leaf entry) (unfinished : entry.state ≠ .finished) :
    Undecided entry := by
  cases heeds.course with
  | due _ undecided | asking _ undecided | waiting _ _ undecided => exact undecided
  | denied state | read state => exact absurd state unfinished

/-- An undecided entry waits for a read that was sent. -/
theorem Heeds.join
    (heeds : Heeds around leaf entry) (undecided : Undecided entry) (owner : Nat) :
    Heeds around leaf { entry with state := .memoryWait owner } :=
  ⟨heeds.request, heeds.table, .waiting owner rfl undecided⟩

theorem Heeds.withBlock
    (heeds : Heeds around leaf entry) (params : Params)
    (plain : leaf.request.mode ≠ .nested) (undecided : Undecided entry)
    {reader : LeafRequest} {block : Block} (origin : ReadFor around leaf reader block) :
    Heeds around leaf (entry.withBlock params block) := by
  have ended : entry.withBlock params block =
      { entry with block := some block, state := .finished } := by
    unfold LeafEntry.withBlock
    dsimp only
    rw [if_neg (by simp [heeds.request, plain])]
  rw [ended]
  exact ⟨heeds.request, heeds.table, .read rfl undecided.1 reader block rfl origin⟩

/-- A block is shared with all of its sector. -/
theorem Heeds.readFor_of_sibling
    {other : LeafRequest} (heeds : Heeds around other entry)
    (shares : entry.request.sharesSector leaf.request = true) {block : Block}
    (holds : entry.block = some block) :
    ∃ reader, ReadFor around leaf reader block := by
  have decided (undecided : Undecided entry) : False := by
    rw [undecided.2] at holds
    cases holds
  rw [heeds.request] at shares
  cases heeds.course with
  | due _ undecided | asking _ undecided | waiting _ _ undecided => exact (decided undecided).elim
  | denied _ _ unread =>
      rw [unread] at holds
      cases holds
  | read _ _ reader found here origin =>
      rw [here] at holds
      cases holds
      exact ⟨reader, origin.brought, Request.sharesSector_trans origin.shares shares,
        origin.allowed, origin.answered⟩

theorem heeds_claim (around : Surroundings) (leaf : LeafRequest) :
    Heeds around leaf leaf.claim :=
  ⟨rfl, rfl, .due rfl ⟨rfl, rfl⟩⟩

/-- Nothing is asked of the second stage. -/
theorem Heeds.lone_state (heeds : Heeds around leaf entry) :
    entry.state ≠ .tableRequest ∧ entry.state ≠ .lastRequest := by
  cases heeds.course with
  | due state | asking state | waiting _ state | denied state | read state =>
      rw [state]
      exact ⟨nofun, nofun⟩

private theorem Ticked.heeds
    {next : LeafEntry} (ticked : Ticked around.protection entry next)
    (heeds : Heeds around leaf entry) (plain : leaf.request.mode ≠ .nested) :
    Heeds around leaf next := by
  cases ticked with
  | denied watchdog due fault =>
      have undecided := heeds.undecided (by rw [due]; nofun)
      rw [heeds.address plain] at fault
      exact ⟨heeds.request, heeds.table, .denied rfl rfl undecided.2 fault⟩
  | passed watchdog due allowed =>
      have undecided := heeds.undecided (by rw [due]; nofun)
      rw [heeds.address plain] at allowed
      exact ⟨heeds.request, heeds.table, .asking rfl undecided allowed⟩
  | unchecked watchdog => exact heeds.watched watchdog

/-! ## The walker -/

/-- Every busy entry heeds the protection on one of the walks that were brought. -/
def HeedsAll (around : Surroundings) (walker : LeafWalker) : Prop :=
  WorksFor around.brought (Heeds around) walker

namespace HeedsAll

variable {walker : LeafWalker}

/-- An accepted walk checks its address, joins a read or takes the block of a sibling. -/
theorem accept
    (all : HeedsAll around walker) (single : SingleTables around.brought) (params : Params)
    (leafBrought : around.brought leaf) (ready : walker.ready = true) :
    HeedsAll around (LeafWalker.accept params leaf walker).state := by
  have undecided : Undecided leaf.claim := ⟨rfl, rfl⟩
  have plain := single.plain leaf leafBrought
  have claim := heeds_claim around leaf
  refine WorksFor.accept all params leafBrought plain ready claim ?_ (claim.join undecided)
  intro other entry block _ heeds shares holds
  obtain ⟨reader, origin⟩ := heeds.readFor_of_sibling shares holds
  exact claim.withBlock params plain undecided origin

/-- Entries whose address was not checked yet join a read that is sent. -/
theorem fireMemory
    (all : HeedsAll around walker) (params : Params) {request : MemoryRequest}
    (wanted : walker.memoryRequest? = some request) :
    HeedsAll around (LeafWalker.fireMemory params walker).state := by
  refine WorksFor.fireMemory all params wanted fun leaf entry owner seeks heeds => ?_
  have unfinished : entry.state ≠ .finished := by
    rcases seeks with state | state <;> rw [state] <;> nofun
  exact heeds.join (heeds.undecided unfinished) owner

/-- The block of a read goes to all who wait for it, and all of them are of its sector. -/
theorem takeBlock
    (all : HeedsAll around walker) (single : SingleTables around.brought) (params : Params)
    (linked : walker.Linked) {id : Nat} (waits : walker.awaitsBlock id = true)
    {reader : LeafRequest} {block : Block}
    (sent : (walker.entry id).request = reader.request)
    (origin : ReadFor around reader reader block) :
    HeedsAll around (LeafWalker.takeBlock params id block walker).state := by
  refine WorksFor.takeBlock all params linked waits ?_
  intro leaf entry leafBrought heeds here shares
  have shared := Request.sharesSector_symm shares
  rw [heeds.request, sent] at shared
  exact heeds.withBlock params (single.plain leaf leafBrought)
    (heeds.undecided (by rw [here]; nofun)) { origin with shares := shared }

/-- In a step every entry that is due is judged by its own address. -/
theorem tick
    (all : HeedsAll around walker) (single : SingleTables around.brought) (params : Params) :
    HeedsAll around (LeafWalker.tick params around.protection walker).state :=
  WorksFor.tick all params fun leaf _ _ leafBrought ticked heeds =>
    ticked.heeds heeds (single.plain leaf leafBrought)

end HeedsAll

/-! ## Answers -/

/-- How the answer to a walk comes about: the protection refuses the leaf entry of the walk,
or a block of the sector was read where the protection allows it. -/
inductive Judged
    (around : Surroundings) (params : Params) (registers : Registers) (leaf : LeafRequest)
    (stageOne : StageOneResult) : Prop
  | refused (fault : (around.protection leaf.address).accessFault = true)
      (answer : stageOne =
        StageOneResult.ofPte leaf.request.vpn {} leafLevel false true
          (registers.asid leaf.request.mode) registers.vmid)
  | read (reader : LeafRequest) (block : Block) (origin : ReadFor around leaf reader block)
      (answer : stageOne =
        StageOneResult.ofBlock leaf.request.vpn block false leaf.request.mode
          params.addressBits (registers.asid leaf.request.mode) registers.vmid)

theorem Heeds.judged
    (heeds : Heeds around leaf entry) (finished : entry.state = .finished)
    (params : Params) (registers : Registers) :
    Judged around params registers leaf (entry.response params registers).stageOne := by
  cases heeds.course with
  | due state | asking state | waiting _ state =>
      rw [finished] at state
      cases state
  | denied _ refused unread fault =>
      refine .refused fault ?_
      simp only [LeafEntry.response, heeds.request, refused, unread]
  | read _ passed reader block holds origin =>
      refine .read reader block origin ?_
      simp only [LeafEntry.response, heeds.request, passed, holds]

/-- The leaf entries of a walk and of the walk whose block it takes lie in one block. -/
theorem ReadFor.sameBlock
    {reader : LeafRequest} {block : Block} (origin : ReadFor around leaf reader block)
    (single : SingleTables around.brought) (leafBrought : around.brought leaf) :
    Memory.blockAddress reader.address = Memory.blockAddress leaf.address := by
  unfold LeafRequest.address
  rw [single.table reader leaf origin.brought leafBrought origin.shares]
  exact blockAddress_eq_of_sectorTag _ ((Request.sharesSector_iff _ _).1 origin.shares).1

/-! ## Runs -/

/-- What a move may do: it brings walks and answers with images that belong to the run. -/
def Move.Within (around : Surroundings) : Move → Prop
  | .accept leaf => around.brought leaf
  | .answerRead _ image => around.images image
  | _ => True

/-- What comes to a walker with the moves of a run. -/
def Surroundings.ofMoves (protection : Protection) (moves : List Move) : Surroundings where
  brought leaf := .accept leaf ∈ moves
  images image := ∃ id, .answerRead id image ∈ moves
  protection := protection

theorem Surroundings.within_ofMoves
    (protection : Protection) {moves : List Move} {move : Move} (member : move ∈ moves) :
    move.Within (.ofMoves protection moves) := by
  cases move with
  | accept leaf => exact member
  | answerRead id image => exact ⟨id, member⟩
  | tick | sendRead | askStageTwo | answerStageTwo | takeFinished | flush => trivial

namespace Traffic

/-- The walker heeds the protection, and the reads on their way are allowed. -/
structure Heeding (around : Surroundings) (traffic : Traffic) : Prop where
  accounted : traffic.Accounted
  all : HeedsAll around traffic.walker
  reads : ∀ read ∈ traffic.reads, ∃ reader, around.brought reader ∧
    read.request = reader.request ∧ read.address = reader.address ∧
    (around.protection reader.address).accessFault = false
  unasked : traffic.page? = none

theorem Heeding.perform
    {traffic : Traffic} (heeding : traffic.Heeding around)
    (single : SingleTables around.brought) (params : Params) {move : Move}
    (within : move.Within around) :
    (perform params around.protection move traffic).state.Heeding around := by
  have accounted := heeding.accounted.perform params around.protection move
  obtain ⟨⟨orderly, _, owed⟩, all, reads, unasked⟩ := heeding
  have moved := perform_cases params around.protection move traffic
  generalize Traffic.perform params around.protection move traffic = outcome
    at moved accounted ⊢
  cases moved with
  | refused same =>
      rw [same] at accounted ⊢
      exact ⟨accounted, all, reads, unasked⟩
  | accept leaf ready =>
      exact ⟨accounted, all.accept single params within ready, reads, unasked⟩
  | tick => exact ⟨accounted, all.tick single params, reads, unasked⟩
  | sendRead request wanted =>
      refine ⟨accounted, all.fireMemory params wanted, ?_, unasked⟩
      intro read member
      rcases List.mem_append.1 member with old | new
      · exact reads read old
      · obtain ⟨address, asks⟩ := memoryRequest_spec wanted
        obtain ⟨leaf, leafBrought, heeds⟩ := all request.id (by rw [asks]; nofun)
        rw [List.mem_singleton.1 new]
        refine ⟨leaf, leafBrought, heeds.request, ?_, ?_⟩
        · exact address.trans (heeds.address (single.plain leaf leafBrought))
        · cases heeds.course with
          | asking _ _ allowed => exact allowed
          | due state | waiting _ state | denied state | read state =>
              rw [asks] at state
              cases state
  | answerRead image read member =>
      obtain ⟨reader, readerBrought, sent, address, allowed⟩ := reads read member
      obtain ⟨waits, request⟩ := owed.awaited read member
      rw [address] at accounted ⊢
      refine ⟨accounted, ?_, ?_, unasked⟩
      · refine all.takeBlock single params orderly.linked waits (request.trans sent) ?_
        exact ⟨readerBrought, Request.sharesSector_refl _, allowed, image, within, rfl⟩
      · exact fun other otherMember => reads other (List.mem_of_mem_erase otherMember)
  | askStageTwo request wants chosen =>
      exact absurd chosen (WorksFor.not_wantsStageTwo all (fun _ _ => Heeds.lone_state) wants)
  | answerStageTwo result request asked =>
      rw [unasked] at asked
      cases asked
  | takeFinished index found =>
      exact ⟨accounted, WorksFor.takeFinished all params found, reads, unasked⟩
  | flush => exact ⟨accounted, WorksFor.of_idle (entry_flush traffic.walker), nofun, rfl⟩

/-- The answer shows a block that was read at a leaf entry of the same block as the leaf
entry of the walk, for a walk of its sector, where the ranges allow it. -/
def TakesRead
    (params : Params) (ranges : ProtectedRanges) (moves : List Move) (registers : Registers)
    (leaf : LeafRequest) (stageOne : StageOneResult) : Prop :=
  ∃ reader id image,
    .accept reader ∈ moves ∧ reader.request.sharesSector leaf.request = true ∧
      Memory.blockAddress reader.address = Memory.blockAddress leaf.address ∧
      (ranges.check reader.address).accessFault = false ∧
      .answerRead id image ∈ moves ∧
      stageOne =
        StageOneResult.ofBlock leaf.request.vpn (image reader.address) false
          leaf.request.mode params.addressBits (registers.asid leaf.request.mode)
          registers.vmid

/-- Whatever ranges are protected, a walk without a second stage is answered from a block
that was read at a leaf entry of its sector where the ranges allow it, or with the access
fault of its own leaf entry. Ranges of whole blocks judge every walk by its own leaf
entry. -/
theorem verdicts_of_run
    (params : Params) (ranges : ProtectedRanges) (moves : List Move)
    (plain : ∀ leaf, .accept leaf ∈ moves →
      leaf.request.mode = .direct ∨ leaf.request.mode = .stageOne)
    (sameTable : ∀ leaf other, .accept leaf ∈ moves → .accept other ∈ moves →
      leaf.request.sharesSector other.request = true → leaf.ppn = other.ppn)
    (registers : Registers) {index : Nat} {response : Response}
    (shown :
      (run params ranges.check moves (start params)).state.walker.finishedResponse params
          registers =
        .ok (index, response)) :
    ∃ leaf, .accept leaf ∈ moves ∧ response.request = leaf.request ∧
      let read := TakesRead params ranges moves registers leaf response.stageOne
      let denied := (ranges.check leaf.address).accessFault
      let slot := response.stageOne.selected
      (slot.valid = true → read) ∧
        (denied = true → slot.accessFault = true ∨ read) ∧
        (ranges.KeepBlocks →
          (slot.valid = true → denied = false) ∧
            (denied = true → slot.accessFault = true ∧ slot.valid = false)) := by
  let around := Surroundings.ofMoves ranges.check moves
  have single : SingleTables around.brought := by
    refine ⟨?_, sameTable⟩
    intro leaf leafBrought
    rcases plain leaf leafBrought with mode | mode <;> rw [mode] <;> nofun
  have first : (start params).Heeding around :=
    ⟨accounted_start params, WorksFor.of_idle (entry_create params), nofun, rfl⟩
  have heeding : (run params ranges.check moves (start params)).state.Heeding around :=
    Outcome.forEach_state_induction
      (fun _ member _ reached =>
        reached.perform single params (Surroundings.within_ofMoves ranges.check member))
      first
  generalize (run params ranges.check moves (start params)).state = traffic at shown heeding
  unfold finishedResponse at shown
  split at shown
  case h_2 => cases shown
  rename_i found
  obtain ⟨rfl, told⟩ := Prod.mk.inj (Except.ok.inj shown)
  have finished := (finished_spec found).2
  obtain ⟨leaf, leafBrought, heeds⟩ := heeding.all _ (by rw [finished]; nofun)
  have judged := heeds.judged finished params registers
  rw [told] at judged
  refine ⟨leaf, leafBrought, told ▸ heeds.request, ?_⟩
  cases judged with
  | refused fault answer =>
      have slot : response.stageOne.selected = StageOneResult.slotOfPte {} false true := by
        rw [answer, StageOneResult.selected_ofPte]
      rw [slot]
      exact ⟨nofun, fun _ => Or.inl rfl, fun _ => ⟨nofun, fun _ => ⟨rfl, rfl⟩⟩⟩
  | read reader block origin answer =>
      have sameBlock := origin.sameBlock single leafBrought
      obtain ⟨image, ⟨id, answered⟩, taken⟩ := origin.answered
      have read : TakesRead params ranges moves registers leaf response.stageOne :=
        ⟨reader, id, image, origin.brought, origin.shares, sameBlock, origin.allowed,
          answered, taken ▸ answer⟩
      refine ⟨fun _ => read, fun _ => Or.inr read, fun keep => ?_⟩
      have own : (ranges.check leaf.address).accessFault = false :=
        keep.check_eq sameBlock ▸ origin.allowed
      rw [own]
      exact ⟨fun _ => rfl, nofun⟩

/-- Walks whose leaf entries lie in one table page, at eight bytes from each other. -/
private def pageThree (vpn : Word) : LeafRequest :=
  { request := { vpn := vpn }, ppn := 3 }

/-- The second walk joins the read of the first, then takes the leaf entry from `image`. -/
private def joinedRead (image : Word → Block) : List Move :=
  [.accept (pageThree 8), .tick, .sendRead, .accept (pageThree 9), .answerRead 0 image,
    .takeFinished]

private theorem walks_of_joinedRead
    {image : Word → Block} {leaf : LeafRequest} (member : .accept leaf ∈ joinedRead image) :
    leaf = pageThree 8 ∨ leaf = pageThree 9 := by
  simpa [joinedRead] using member

private theorem plain_of_joinedRead
    (image : Word → Block) (leaf : LeafRequest) (member : .accept leaf ∈ joinedRead image) :
    leaf.request.mode = .direct ∨ leaf.request.mode = .stageOne := by
  rcases walks_of_joinedRead member with rfl | rfl <;> exact Or.inl rfl

private theorem sameTable_of_joinedRead
    (image : Word → Block) (leaf other : LeafRequest)
    (member : .accept leaf ∈ joinedRead image) (otherMember : .accept other ∈ joinedRead image)
    (_ : leaf.request.sharesSector other.request = true) : leaf.ppn = other.ppn := by
  rcases walks_of_joinedRead member with rfl | rfl <;>
    rcases walks_of_joinedRead otherMember with rfl | rfl <;> rfl

/-- Only the leaf entry of the second walk is denied, and the second walk takes it from the
read of the first. -/
theorem verdicts_of_small_run :
    let ranges : ProtectedRanges := { denied := [⟨0x3048, 0x3050⟩] }
    let moves := joinedRead fun _ => Vector.replicate 8 0x20000cf
    ∃ response leaf, .accept leaf ∈ moves ∧ response.request = leaf.request ∧
      (run .small ranges.check moves (start .small)).state.walker.finishedResponse .small {} =
        .ok (1, response) ∧
      TakesRead .small ranges moves {} leaf response.stageOne := by
  intro ranges moves
  let outcome :=
    (run .small ranges.check moves (start .small)).state.walker.finishedResponse .small {}
  have finished :
      outcome.toOption.map (fun (index, response) => (index, response.stageOne.selected.valid)) =
        some (1, true) := by
    decide +kernel
  cases shown : outcome with
  | error fault =>
      rw [shown] at finished
      cases finished
  | ok pair =>
      obtain ⟨index, response⟩ := pair
      rw [shown] at finished
      obtain ⟨rfl, valid⟩ := Prod.mk.inj (Option.some.inj finished)
      obtain ⟨leaf, member, request, taken, _⟩ :=
        verdicts_of_run .small ranges moves (plain_of_joinedRead _) (sameTable_of_joinedRead _)
          {} shown
      exact ⟨response, leaf, member, request, shown, taken valid⟩

/-- A read that was allowed for one walk serves its sector, also where the ranges deny the
leaf entry of another walk alone. -/
theorem denied_leaf_shares_read :
    ¬ ∀ (params : Params) (ranges : ProtectedRanges) (moves : List Move),
      (∀ leaf, .accept leaf ∈ moves →
        leaf.request.mode = .direct ∨ leaf.request.mode = .stageOne) →
      (∀ leaf other, .accept leaf ∈ moves → .accept other ∈ moves →
        leaf.request.sharesSector other.request = true → leaf.ppn = other.ppn) →
      ∀ registers index response,
        (run params ranges.check moves (start params)).state.walker.finishedResponse params
            registers =
          .ok (index, response) →
        ∃ leaf, .accept leaf ∈ moves ∧ response.request = leaf.request ∧
          (response.stageOne.selected.valid = true →
            (ranges.check leaf.address).accessFault = false) ∧
          ((ranges.check leaf.address).accessFault = true →
            response.stageOne.selected.accessFault = true) := by
  intro claim
  let ranges : ProtectedRanges := { denied := [⟨0x3048, 0x3050⟩] }
  let moves := joinedRead fun _ => Vector.replicate 8 0x20000cf
  let outcome :=
    (run .small ranges.check moves (start .small)).state.walker.finishedResponse .small {}
  have finished :
      outcome.toOption.map (fun (_, response) =>
          (response.request.vpn, response.stageOne.selected.valid)) =
        some (9, true) := by
    decide +kernel
  cases shown : outcome with
  | error fault =>
      rw [shown] at finished
      cases finished
  | ok pair =>
      obtain ⟨index, response⟩ := pair
      rw [shown] at finished
      obtain ⟨vpn, valid⟩ := Prod.mk.inj (Option.some.inj finished)
      obtain ⟨leaf, member, request, allowed, _⟩ :=
        claim .small ranges moves (plain_of_joinedRead _) (sameTable_of_joinedRead _) {} _ _
          shown
      rw [request] at vpn
      rcases walks_of_joinedRead member with rfl | rfl
      · exact absurd vpn (by decide)
      · exact absurd (allowed valid) (by decide)

end Traffic

end LeafWalker

end PageWalk
