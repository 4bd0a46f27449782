import PageWalk.Proofs.LeafWalker.Sectors

/-!
# Runs of the leaf walker

What the walker's partners can do to it, in any order: bring a walk, let it step, take
its read or its guest page, answer either of them, take a finished entry, flush it. The
reads and the guest page on their way are written down beside the walker. At every point
of a run the reads are of different sectors and everybody who waits for a block waits
for one of them.
-/

namespace PageWalk.LeafWalker

/-! ## The walker and what is on its way -/

/-- A read that was sent and is not answered yet, and the lookup that it was sent for. -/
structure OpenRead where
  id : Nat
  address : Word
  request : Request
deriving DecidableEq, Repr

/-- A walker with the reads and the guest page that are on their way. -/
structure Traffic where
  walker : LeafWalker
  reads : List OpenRead := []
  page? : Option StageTwoRequest := none

/-- What can be done to a leaf walker. -/
inductive Move
  | accept (leaf : LeafRequest)
  | tick
  | sendRead
  /-- Answers the read of an entry with what an image of the memory has there. -/
  | answerRead (id : Nat) (image : Word → Block)
  | askStageTwo
  | answerStageTwo (result : StageTwoResult)
  | takeFinished
  /-- Drops all walks and what is on its way. -/
  | flush

namespace Traffic

/-- The walker before anything was done to it. -/
def start (params : Params) : Traffic where
  walker := create params

def onWalker (operation : LeafWalker → Outcome LeafWalker) (traffic : Traffic) :
    Outcome Traffic :=
  (operation traffic.walker).map fun walker => { traffic with walker := walker }

/-- Makes a move. One that the walker is not ready for, or that answers what nobody has
asked for, changes nothing. -/
def perform (params : Params) (protection : Protection) (move : Move) (traffic : Traffic) :
    Outcome Traffic :=
  let walker := traffic.walker
  match move with
  | .accept leaf =>
      if walker.ready then traffic.onWalker (LeafWalker.accept params leaf)
      else { state := traffic }
  | .tick => traffic.onWalker (LeafWalker.tick params protection)
  | .sendRead =>
      if walker.anyInState .memoryRequest then
        match walker.memoryRequest params with
        | .ok request =>
            let read : OpenRead :=
              ⟨request.id, request.address, (walker.entry request.id).request⟩
            onWalker (fireMemory params) { traffic with reads := traffic.reads ++ [read] }
        | .error fault => .stop traffic fault
      else
        { state := traffic }
  | .answerRead id image =>
      match traffic.reads.find? (·.id == id) with
      | some read =>
          onWalker (takeBlock params id (image read.address))
            { traffic with reads := traffic.reads.erase read }
      | none => { state := traffic }
  | .askStageTwo =>
      if walker.wantsStageTwo then
        match walker.stageTwoRequest params with
        | .ok request =>
            onWalker (fireStageTwo params) { traffic with page? := some request }
        | .error fault => .stop traffic fault
      else
        { state := traffic }
  | .answerStageTwo result =>
      match traffic.page? with
      | some request =>
          onWalker (takeStageTwo params request.id result) { traffic with page? := none }
      | none => { state := traffic }
  | .takeFinished =>
      if walker.finishedIndex?.isSome then
        traffic.onWalker (LeafWalker.takeFinished params)
      else
        { state := traffic }
  | .flush => { state := { walker := walker.flush } }

/-- Makes moves until one of them stops the walker. -/
def run (params : Params) (protection : Protection) (moves : List Move) (traffic : Traffic) :
    Outcome Traffic :=
  Outcome.forEach (perform params protection) moves traffic

/-- The ways in which a move can go. -/
inductive Moved (params : Params) (protection : Protection) (traffic : Traffic) :
    Move → Outcome Traffic → Prop
  | refused {move : Move} {outcome : Outcome Traffic} (same : outcome.state = traffic) :
      Moved params protection traffic move outcome
  | accept (leaf : LeafRequest) (ready : traffic.walker.ready = true) :
      Moved params protection traffic (.accept leaf)
        (traffic.onWalker (LeafWalker.accept params leaf))
  | tick :
      Moved params protection traffic .tick
        (traffic.onWalker (LeafWalker.tick params protection))
  | sendRead (request : MemoryRequest)
      (wanted : traffic.walker.memoryRequest? = some request) :
      Moved params protection traffic .sendRead
        (onWalker (fireMemory params)
          { traffic with
            reads := traffic.reads ++
              [⟨request.id, request.address, (traffic.walker.entry request.id).request⟩] })
  | answerRead (image : Word → Block) (read : OpenRead) (onItsWay : read ∈ traffic.reads) :
      Moved params protection traffic (.answerRead read.id image)
        (onWalker (takeBlock params read.id (image read.address))
          { traffic with reads := traffic.reads.erase read })
  | askStageTwo (request : StageTwoRequest) (wants : traffic.walker.wantsStageTwo = true)
      (chosen : traffic.walker.stageTwoRequest? = some request) :
      Moved params protection traffic .askStageTwo
        (onWalker (fireStageTwo params) { traffic with page? := some request })
  | answerStageTwo (result : StageTwoResult) (request : StageTwoRequest)
      (asked : traffic.page? = some request) :
      Moved params protection traffic (.answerStageTwo result)
        (onWalker (takeStageTwo params request.id result) { traffic with page? := none })
  | takeFinished (index : Nat) (found : traffic.walker.finishedIndex? = some index) :
      Moved params protection traffic .takeFinished
        (traffic.onWalker (LeafWalker.takeFinished params))
  | flush :
      Moved params protection traffic .flush { state := { walker := traffic.walker.flush } }

theorem perform_cases
    (params : Params) (protection : Protection) (move : Move) (traffic : Traffic) :
    Moved params protection traffic move (perform params protection move traffic) := by
  cases move with
  | accept leaf =>
      simp only [perform]
      split
      · rename_i ready
        exact .accept leaf ready
      · exact .refused rfl
  | tick => exact .tick
  | sendRead =>
      simp only [perform]
      split
      · cases wanted : traffic.walker.memoryRequest? with
        | some request =>
            simp only [memoryRequest, wanted]
            exact .sendRead request wanted
        | none =>
            simp only [memoryRequest, wanted]
            exact .refused rfl
      · exact .refused rfl
  | answerRead id image =>
      simp only [perform]
      split
      · rename_i read found
        have here := List.find?_some found
        rw [← eq_of_beq here]
        exact .answerRead image read (List.mem_of_find?_eq_some found)
      · exact .refused rfl
  | askStageTwo =>
      simp only [perform]
      split
      · rename_i wants
        cases chosen : traffic.walker.stageTwoRequest? with
        | some request =>
            simp only [stageTwoRequest, chosen]
            exact .askStageTwo request wants chosen
        | none =>
            simp only [stageTwoRequest, chosen]
            exact .refused rfl
      · exact .refused rfl
  | answerStageTwo result =>
      simp only [perform]
      split
      · rename_i request asked
        exact .answerStageTwo result request asked
      · exact .refused rfl
  | takeFinished =>
      simp only [perform]
      split
      · rename_i some
        obtain ⟨index, found⟩ := Option.isSome_iff_exists.1 some
        exact .takeFinished index found
      · exact .refused rfl
  | flush => exact .flush

/-! ## The reads on their way -/

/-- The reads on their way are those that some entry waits for on its own account, one
for each sector. -/
structure Owed (walker : LeafWalker) (reads : List OpenRead) : Prop where
  awaited : ∀ read ∈ reads,
    walker.awaitsBlock read.id = true ∧ (walker.entry read.id).request = read.request
  sent : ∀ id, walker.awaitsBlock id = true → ∃ read ∈ reads, read.id = id
  apart : reads.Pairwise fun read other => read.request.sharesSector other.request = false

variable {walker after : LeafWalker} {reads : List OpenRead}

theorem Owed.of_awaits
    (owed : Owed walker reads)
    (same : ∀ id, after.awaitsBlock id = walker.awaitsBlock id)
    (kept : WaitsKept walker after) : Owed after reads where
  awaited read member := by
    obtain ⟨waits, request⟩ := owed.awaited read member
    rw [same]
    exact ⟨waits, ((kept read.id (by rw [same, waits])).2).trans request⟩
  sent id waits := by
    rw [same] at waits
    exact owed.sent id waits
  apart := owed.apart

theorem owed_of_idle (idle : ∀ index, walker.entry index = {}) : Owed walker [] where
  awaited := nofun
  sent id waits := by
    rw [awaitsBlock_of_idle idle] at waits
    cases waits
  apart := .nil

/-- The sector of a read that is sent has no read on its way: the sender seeks its
block. -/
theorem Owed.fireMemory
    (owed : Owed walker reads) (settled : walker.Settled) (params : Params)
    {request : MemoryRequest} (wanted : walker.memoryRequest? = some request) :
    Owed (fireMemory params walker).state
      (reads ++ [⟨request.id, request.address, (walker.entry request.id).request⟩]) where
  awaited := by
    intro read member
    have waits : walker.awaitsBlock read.id = true ∨ read.id = request.id := by
      rcases List.mem_append.1 member with old | new
      · exact Or.inl (owed.awaited read old).1
      · exact Or.inr (by rw [List.mem_singleton.1 new])
    have firedWaits : (LeafWalker.fireMemory params walker).state.awaitsBlock read.id = true := by
      rw [fireMemory_awaitsBlock params wanted, Bool.or_eq_true, beq_iff_eq]
      exact waits
    refine ⟨firedWaits, ?_⟩
    rw [(fireMemory_waits params wanted firedWaits).2]
    rcases List.mem_append.1 member with old | new
    · exact (owed.awaited read old).2
    · rw [List.mem_singleton.1 new]
  sent := by
    intro id waits
    rcases (fireMemory_waits params wanted waits).1 with old | here
    · obtain ⟨read, member, same⟩ := owed.sent id old
      exact ⟨read, List.mem_append_left _ member, same⟩
    · exact ⟨_, List.mem_append_right _ (List.mem_singleton_self _), here.symm⟩
  apart := by
    rw [List.pairwise_append]
    refine ⟨owed.apart, List.pairwise_singleton _ _, ?_⟩
    intro read member new newMember
    obtain ⟨waits, same⟩ := owed.awaited read member
    have reads : (walker.entry read.id).hasRead = true :=
      (LeafEntry.hasRead_iff _).2 (Or.inl ⟨_, (awaitsBlock_iff _ _).1 waits⟩)
    have apart := settled.single read.id request.id reads (Or.inr (memoryRequest_spec wanted).2)
    rw [List.mem_singleton.1 newMember, ← same]
    exact Request.sharesSector_eq_false_symm apart

/-- Two reads of one entry would be of one sector. -/
theorem Owed.eq_of_id
    (owed : Owed walker reads) {read other : OpenRead} (member : read ∈ reads)
    (otherMember : other ∈ reads.erase read) : other.id ≠ read.id := by
  intro same
  have request : other.request = read.request := by
    rw [← (owed.awaited read member).2,
      ← (owed.awaited other (List.mem_of_mem_erase otherMember)).2, same]
  have perm := List.perm_cons_erase member
  have apart := (List.Perm.pairwise_iff (fun {_ _} => Request.sharesSector_eq_false_symm) perm).1
    owed.apart
  have distinct := (List.pairwise_cons.1 apart).1 other otherMember
  rw [request, Request.sharesSector_refl] at distinct
  cases distinct

theorem Owed.takeBlock
    (owed : Owed walker reads) (params : Params) (block : Block) {read : OpenRead}
    (member : read ∈ reads) :
    Owed (takeBlock params read.id block walker).state (reads.erase read) := by
  have waits := (owed.awaited read member).1
  have rest (tested : Nat) :
      (LeafWalker.takeBlock params read.id block walker).state.awaitsBlock tested = true ↔
        walker.awaitsBlock tested = true ∧ tested ≠ read.id := by
    rw [takeBlock_awaitsBlock params block waits, Bool.and_eq_true, bne_iff_ne]
  refine ⟨?_, ?_, owed.apart.sublist List.erase_sublist⟩
  · intro other otherMember
    obtain ⟨otherWaits, same⟩ := owed.awaited other (List.mem_of_mem_erase otherMember)
    have still := (rest other.id).2 ⟨otherWaits, owed.eq_of_id member otherMember⟩
    exact ⟨still, ((takeBlock_waitsKept params block waits other.id still).2).trans same⟩
  · intro id stillWaits
    obtain ⟨idWaits, different⟩ := (rest id).1 stillWaits
    obtain ⟨other, otherMember, same⟩ := owed.sent id idWaits
    refine ⟨other, (List.mem_erase_of_ne ?_).2 otherMember, same⟩
    intro equal
    rw [equal] at same
    exact different same.symm

/-! ## What every move keeps -/

/-- The guest page on its way, as the entries that wait for it know it. -/
def ticket (traffic : Traffic) : Option (Nat × Word) :=
  traffic.page?.map fun request => (request.id, request.gvpn)

/-- All waits are accounted for. -/
structure Accounted (traffic : Traffic) : Prop where
  orderly : traffic.walker.Orderly traffic.ticket
  settled : traffic.walker.Settled
  owed : Owed traffic.walker traffic.reads

theorem accounted_of_idle
    {traffic : Traffic} (idle : ∀ index, traffic.walker.entry index = {})
    (free : traffic.walker.stageTwoBusy = false) (quiet : traffic.reads = [])
    (unasked : traffic.page? = none) : traffic.Accounted where
  orderly := by
    rw [ticket, unasked]
    exact orderly_of_idle idle free
  settled := settled_of_idle idle
  owed := by
    rw [quiet]
    exact owed_of_idle idle

theorem accounted_start (params : Params) : (start params).Accounted :=
  accounted_of_idle (entry_create params) rfl rfl rfl

theorem Accounted.perform
    {traffic : Traffic} (accounted : traffic.Accounted) (params : Params)
    (protection : Protection) (move : Move) :
    (perform params protection move traffic).state.Accounted := by
  obtain ⟨orderly, settled, owed⟩ := accounted
  have linked := orderly.linked
  have moved := perform_cases params protection move traffic
  generalize Traffic.perform params protection move traffic = outcome at moved ⊢
  cases moved with
  | refused same =>
      rw [same]
      exact ⟨orderly, settled, owed⟩
  | accept leaf ready =>
      exact ⟨orderly.accept params leaf ready, settled.accept params leaf ready,
        owed.of_awaits (accept_awaitsBlock params leaf linked ready)
          (accept_waitsKept params leaf linked ready)⟩
  | tick =>
      have alike := tick_alike params protection traffic.walker
      exact ⟨orderly.tick params protection, settled.tick params protection,
        owed.of_awaits alike.awaitsBlock alike.waitsKept⟩
  | sendRead request wanted =>
      exact ⟨orderly.fireMemory params wanted, settled.fireMemory params wanted,
        owed.fireMemory settled params wanted⟩
  | answerRead image read member =>
      have waits := (owed.awaited read member).1
      exact ⟨orderly.takeBlock params _ waits, settled.takeBlock params _ waits,
        owed.takeBlock params _ member⟩
  | askStageTwo request wants chosen =>
      have alike := fireStageTwo_alike params wants chosen
      exact ⟨orderly.fireStageTwo params wants chosen,
        settled.fireStageTwo params wants chosen,
        owed.of_awaits alike.awaitsBlock alike.waitsKept⟩
  | answerStageTwo result request asked =>
      have ticketIs : traffic.ticket = some (request.id, request.gvpn) := by
        rw [ticket, asked]
        rfl
      rw [ticketIs] at orderly
      have busy := orderly.busy
      exact ⟨orderly.takeStageTwo params result,
        settled.takeStageTwo params request.id result linked busy,
        owed.of_awaits (takeStageTwo_awaitsBlock params request.id result linked busy)
          (takeStageTwo_waitsKept params request.id result linked busy)⟩
  | takeFinished index found =>
      exact ⟨orderly.takeFinished params found, settled.takeFinished params found,
        owed.of_awaits (takeFinished_awaitsBlock params found)
          (takeFinished_waitsKept params found)⟩
  | flush => exact accounted_of_idle (entry_flush traffic.walker) rfl rfl rfl

theorem Accounted.run
    {traffic : Traffic} (accounted : traffic.Accounted) (params : Params)
    (protection : Protection) (moves : List Move) :
    (run params protection moves traffic).state.Accounted :=
  Outcome.forEach_state_induction
    (fun move _ _ reached => reached.perform params protection move) accounted

/-! ## Shared reads -/

/-- What holds of the reads of a walker at every point of its runs. -/
structure ReadsShared (params : Params) (traffic : Traffic) : Prop where
  /-- There is at most one read on its way for each sector and mode. -/
  apart : traffic.reads.Pairwise fun read other =>
    read.request.sharesSector other.request = false
  /-- Who waits for a block waits for the read of an entry of its sector and mode. That
  entry waits for the read itself, and the read is on its way. -/
  awaited : ∀ index owner, (traffic.walker.entry index).state = .memoryWait owner →
    (traffic.walker.entry owner).state = .memoryWait owner ∧
      (traffic.walker.entry index).request.sharesSector
          (traffic.walker.entry owner).request = true ∧
      ∃ read ∈ traffic.reads,
        read.id = owner ∧ read.request = (traffic.walker.entry owner).request
  /-- While an entry waits for the block of its sector, or has it, no entry of the sector
  and mode goes for the block on its own. -/
  single : ∀ reader seeker,
    (traffic.walker.entry reader).state ≠ .idle →
    (∃ owner, (traffic.walker.entry reader).state = .memoryWait owner) ∨
        (traffic.walker.entry reader).block.isSome = true →
    (traffic.walker.entry seeker).request.sharesSector
        (traffic.walker.entry reader).request = true →
      (traffic.walker.entry seeker).state ≠ .addressCheck ∧
        (traffic.walker.entry seeker).state ≠ .memoryRequest
  /-- The answer to a read is taken, and leaves nobody behind who waits for that read. -/
  answered : ∀ read ∈ traffic.reads, ∀ block,
    (takeBlock params read.id block traffic.walker).fault = none ∧
      ∀ index, ((takeBlock params read.id block traffic.walker).state.entry index).state ≠
        .memoryWait read.id

/-- Whatever is done to a leaf walker, the lookups of a sector share one read. -/
theorem readsShared_of_run
    (params : Params) (protection : Protection) (moves : List Move) :
    ReadsShared params (run params protection moves (start params)).state := by
  obtain ⟨orderly, settled, owed⟩ := (accounted_start params).run params protection moves
  generalize (Traffic.run params protection moves (start params)).state = traffic
    at orderly settled owed
  refine ⟨owed.apart, ?_, ?_, ?_⟩
  · intro index owner waits
    obtain ⟨ownerWaits, shares⟩ := orderly.linked index owner waits
    obtain ⟨read, member, same⟩ := owed.sent owner ((awaitsBlock_iff _ _).2 ownerWaits)
    have request := (owed.awaited read member).2
    rw [same] at request
    exact ⟨ownerWaits, shares, read, member, same, request.symm⟩
  · intro reader seeker _ reads shares
    have notSeeking : ¬ (traffic.walker.entry seeker).Seeks := by
      intro seeks
      rw [settled.single reader seeker ((LeafEntry.hasRead_iff _).2 reads) seeks] at shares
      cases shares
    exact ⟨fun due => notSeeking (Or.inl due), fun asking => notSeeking (Or.inr asking)⟩
  · intro read member block
    have waits := (owed.awaited read member).1
    have after := orderly.takeBlock params block waits
    refine ⟨(takeBlock_spec params block ((awaitsBlock_iff _ _).1 waits)).2.2.running, ?_⟩
    intro index left
    have ownerWaits := (awaitsBlock_iff _ _).2 (after.linked index read.id left).1
    rw [takeBlock_awaitsBlock params block waits, bne_self_eq_false, Bool.and_false] at ownerWaits
    cases ownerWaits

/-- Of three lookups of a sector the last one comes after the read was sent. -/
example :
    let leaf (vpn : Word) : LeafRequest := { request := { vpn := vpn }, ppn := 3 }
    let traffic :=
      (run .small .allowAll
        [.accept (leaf 8), .accept (leaf 9), .tick, .sendRead, .accept (leaf 10)]
        (start .small)).state
    traffic.reads.length = 1 ∧ (traffic.walker.entry 2).state = .memoryWait 0 := by
  decide +kernel

end Traffic

end PageWalk.LeafWalker
