import PageWalk.Proofs.LeafWalker.Links

/-!
# One read for each sector

As soon as an entry waits for the block of its sector, or has it, no entry of that
sector goes for the block on its own: `Settled`. Each operation of the leaf walker
keeps this, for it lets a newcomer look at its siblings first and a read that is sent
take all its siblings along.
-/

namespace PageWalk

namespace LeafEntry

/-- The entry goes for its block on its own. -/
def Seeks (entry : LeafEntry) : Prop :=
  entry.state = .addressCheck ∨ entry.state = .memoryRequest

/-- An entry has no block before its read was answered. -/
def Unread (entry : LeafEntry) : Prop :=
  match entry.state with
  | .idle | .tableRequest | .tableWait _ | .addressCheck | .memoryRequest | .memoryWait _ =>
      entry.block = none
  | .finished | .lastRequest | .lastWait _ => True

theorem unread_of_block {entry : LeafEntry} (none : entry.block = none) : entry.Unread := by
  unfold Unread
  split <;> first | exact none | trivial

theorem not_seeks
    {entry : LeafEntry} (notDue : entry.state ≠ .addressCheck)
    (notAsking : entry.state ≠ .memoryRequest) : ¬ entry.Seeks := by
  rintro (due | asking)
  · exact notDue due
  · exact notAsking asking

theorem not_seeks_withBlock (entry : LeafEntry) (params : Params) (block : Block) :
    ¬ (entry.withBlock params block).Seeks := by
  rcases entry.withBlock_state params block with state | state
  all_goals exact not_seeks (by rw [state]; nofun) (by rw [state]; nofun)

theorem unread_withBlock (entry : LeafEntry) (params : Params) (block : Block) :
    (entry.withBlock params block).Unread := by
  unfold Unread
  rcases entry.withBlock_state params block with state | state <;> simp [state]

theorem hasRead_iff (entry : LeafEntry) :
    entry.hasRead = true ↔
      (∃ owner, entry.state = .memoryWait owner) ∨ entry.block.isSome = true := by
  rw [hasRead, Bool.or_eq_true, Option.isSome_iff_exists]
  simp only [memoryOwner_eq_some]

theorem not_hasRead
    {entry : LeafEntry} (none : entry.block = none)
    (notWaiting : ∀ owner, entry.state ≠ .memoryWait owner) : ¬ entry.hasRead = true := by
  intro reads
  rcases entry.hasRead_iff.1 reads with ⟨owner, waits⟩ | some
  · exact notWaiting owner waits
  · rw [none] at some
    cases some

/-- Nobody seeks a block that it waits for or has. -/
theorem Unread.not_hasRead
    {entry : LeafEntry} (unread : entry.Unread) (seeks : entry.Seeks) :
    ¬ entry.hasRead = true := by
  unfold Unread at unread
  rcases seeks with state | state
  all_goals
    rw [state] at unread
    exact LeafEntry.not_hasRead unread (by rw [state]; nofun)

theorem Unread.busy_of_hasRead
    {entry : LeafEntry} (unread : entry.Unread) (reads : entry.hasRead = true) :
    entry.state ≠ .idle := by
  intro idle
  unfold Unread at unread
  rw [idle] at unread
  exact LeafEntry.not_hasRead unread (by rw [idle]; nofun) reads

end LeafEntry

theorem Request.sharesSector_eq_false_symm
    {request other : Request} (apart : request.sharesSector other = false) :
    other.sharesSector request = false := by
  rw [Bool.eq_false_iff] at apart ⊢
  exact fun shares => apart (Request.sharesSector_symm shares)

namespace LeafWalker

/-! ## The invariant -/

/-- The block of a sector that somebody has or waits for is sought by nobody. -/
structure Settled (walker : LeafWalker) : Prop where
  unread : ∀ index, (walker.entry index).Unread
  single : ∀ reader seeker,
    (walker.entry reader).hasRead = true → (walker.entry seeker).Seeks →
      (walker.entry seeker).request.sharesSector (walker.entry reader).request = false

variable {walker after : LeafWalker}

theorem settled_of_idle (idle : ∀ index, walker.entry index = {}) : walker.Settled where
  unread index := by
    rw [idle]
    exact LeafEntry.unread_of_block rfl
  single reader seeker reads := by
    rw [idle] at reads
    cases reads

/-- The other entries need only know what the new entry reads and what it seeks. -/
theorem Settled.replaced
    {index : Nat} {entry : LeafEntry} (settled : walker.Settled)
    (replaced : Replaced walker after index entry) (unread : entry.Unread)
    (reads : entry.hasRead = true → ∀ seeker, seeker ≠ index →
      (walker.entry seeker).Seeks →
        (walker.entry seeker).request.sharesSector entry.request = false)
    (seeks : entry.Seeks → ∀ reader, reader ≠ index →
      (walker.entry reader).hasRead = true →
        entry.request.sharesSector (walker.entry reader).request = false) :
    after.Settled := by
  constructor
  · intro other
    by_cases here : other = index
    · rw [here, replaced.here]
      exact unread
    · rw [replaced.elsewhere other here]
      exact settled.unread other
  · intro reader seeker readerReads seekerSeeks
    by_cases readerHere : reader = index
    · by_cases seekerHere : seeker = index
      · rw [readerHere, replaced.here] at readerReads
        rw [seekerHere, replaced.here] at seekerSeeks
        exact absurd readerReads (unread.not_hasRead seekerSeeks)
      · rw [readerHere, replaced.here] at readerReads ⊢
        rw [replaced.elsewhere seeker seekerHere] at seekerSeeks ⊢
        exact reads readerReads seeker seekerHere seekerSeeks
    · rw [replaced.elsewhere reader readerHere] at readerReads ⊢
      by_cases seekerHere : seeker = index
      · rw [seekerHere, replaced.here] at seekerSeeks ⊢
        exact seeks seekerSeeks reader readerHere readerReads
      · rw [replaced.elsewhere seeker seekerHere] at seekerSeeks ⊢
        exact settled.single reader seeker readerReads seekerSeeks

/-- The changed entry walks on for the same lookup. It neither takes up a read nor
begins to seek one. -/
structure Advances (entry next : LeafEntry) : Prop where
  request : next.request = entry.request
  unread : next.Unread
  reads : next.hasRead = true → entry.hasRead = true
  seeks : next.Seeks → entry.Seeks

theorem Advances.refl {entry : LeafEntry} (unread : entry.Unread) : Advances entry entry :=
  ⟨rfl, unread, fun reads => reads, fun seeks => seeks⟩

theorem Settled.advance
    {index : Nat} {entry : LeafEntry} (settled : walker.Settled)
    (replaced : Replaced walker after index entry)
    (advances : Advances (walker.entry index) entry) : after.Settled := by
  refine settled.replaced replaced advances.unread ?_ ?_
  · intro reads seeker _ seeks
    rw [advances.request]
    exact settled.single index seeker (advances.reads reads) seeks
  · intro seeks reader _ reads
    rw [advances.request]
    exact settled.single reader index reads (advances.seeks seeks)

theorem Settled.changed
    {change : LeafEntry → LeafEntry} (settled : walker.Settled)
    (changed : Changed walker after change)
    (advances : ∀ index, Advances (walker.entry index) (change (walker.entry index))) :
    after.Settled := by
  constructor
  · intro index
    rw [changed.entry]
    exact (advances index).unread
  · intro reader seeker reads seeks
    rw [changed.entry] at reads seeks
    rw [changed.entry, changed.entry, (advances reader).request, (advances seeker).request]
    exact settled.single reader seeker ((advances reader).reads reads)
      ((advances seeker).seeks seeks)

/-- An entry that becomes free is nothing to the others. -/
theorem Settled.freed
    {index : Nat} (settled : walker.Settled) (replaced : Replaced walker after index {}) :
    after.Settled := by
  refine settled.replaced replaced (LeafEntry.unread_of_block rfl) ?_ ?_
  · intro reads
    cases reads
  · intro seeks
    exact absurd seeks (LeafEntry.not_seeks nofun nofun)

/-! ## Placing an entry -/

/-- An entry without siblings is the first of its sector to go for the block. -/
theorem sibling_eq_none
    {index : Nat} (none : walker.sibling? index = none) {other : Nat}
    (different : other ≠ index) (busy : (walker.entry other).state ≠ .idle)
    (reads : (walker.entry other).hasRead = true) :
    (walker.entry other).request.sharesSector (walker.entry index).request = false := by
  have inside : other < walker.entries.size := lt_size_of_busy busy
  have failed := List.find?_eq_none.1 none other (List.mem_range.2 inside)
  have notIdle : (walker.entry other).isIdle = false := by
    rw [Bool.eq_false_iff]
    exact fun idle => busy ((LeafEntry.isIdle_iff _).1 idle)
  simpa [different, notIdle, reads] using failed

/-- Whoever shares a sibling's read stays clear of those who seek, as the sibling
does. -/
private theorem Settled.single_of_sibling
    (settled : walker.Settled) {sibling seeker : Nat} {request : Request}
    (reads : (walker.entry sibling).hasRead = true)
    (shares : (walker.entry sibling).request.sharesSector request = true)
    (seeks : (walker.entry seeker).Seeks) :
    (walker.entry seeker).request.sharesSector request = false := by
  rw [Bool.eq_false_iff]
  intro seekerShares
  have meets := Request.sharesSector_trans seekerShares (Request.sharesSector_symm shares)
  rw [settled.single sibling seeker reads seeks] at meets
  cases meets

/-- An entry that was prepared without a block and then placed keeps its sector
settled. -/
theorem Settled.placed
    {params : Params} {prepared : LeafWalker} {index : Nat} {first entry : LeafEntry}
    (settled : walker.Settled) (preparation : Replaced walker prepared index first)
    (none : first.block = none) (placed : Placed params prepared index entry)
    (replaced : Replaced walker after index entry) : after.Settled := by
  have request : entry.request = first.request := by
    rw [placed.request, preparation.here]
  cases placed with
  | alone alone =>
      rw [preparation.here] at replaced
      refine settled.replaced replaced (LeafEntry.unread_of_block none) ?_ ?_
      · intro reads
        exact absurd reads (LeafEntry.not_hasRead none nofun)
      · intro _ reader different reads
        have busy := (settled.unread reader).busy_of_hasRead reads
        rw [← preparation.elsewhere reader different] at busy reads ⊢
        have apart := sibling_eq_none alone different busy reads
        rw [preparation.here] at apart
        exact Request.sharesSector_eq_false_symm apart
  | copied sibling block found holds =>
      have reads := found.reads
      have shares := found.shares
      rw [preparation.elsewhere sibling found.other] at reads shares
      rw [preparation.here] at shares
      refine settled.replaced replaced (LeafEntry.unread_withBlock _ params block) ?_ ?_
      · intro _ seeker _ seeks
        rw [request]
        exact settled.single_of_sibling reads shares seeks
      · intro seeks
        exact absurd seeks (LeafEntry.not_seeks_withBlock _ params block)
  | joined sibling owner found waits =>
      have reads := found.reads
      have shares := found.shares
      rw [preparation.elsewhere sibling found.other] at reads shares
      rw [preparation.here] at shares replaced request
      refine settled.replaced replaced (LeafEntry.unread_of_block none) ?_ ?_
      · intro _ seeker _ seeks
        rw [request]
        exact settled.single_of_sibling reads shares seeks
      · intro seeks
        exact absurd seeks (LeafEntry.not_seeks nofun nofun)

/-! ## The operations -/

theorem Settled.accept
    (settled : walker.Settled) (params : Params) (leaf : LeafRequest)
    (ready : walker.ready = true) : (accept params leaf walker).state.Settled := by
  obtain ⟨index, _, _, ⟨replaced, _⟩ | ⟨entry, admitted, replaced, _⟩⟩ :=
    accept_cases params leaf ready
  · exact settled.freed replaced
  · cases admitted with
    | table =>
        refine settled.replaced replaced (LeafEntry.unread_of_block rfl) ?_ ?_
        · intro reads
          cases reads
        · intro seeks
          exact absurd seeks (LeafEntry.not_seeks nofun nofun)
    | placed placed =>
        exact settled.placed (replaced_setEntry replaced.inside leaf.claim) rfl placed replaced

/-- Whoever still seeks a block after a read was sent is of another sector. -/
theorem Settled.fireMemory
    (settled : walker.Settled) (params : Params) {request : MemoryRequest}
    (wanted : walker.memoryRequest? = some request) :
    (fireMemory params walker).state.Settled := by
  obtain ⟨changed, _, _⟩ := fireMemory_spec params wanted
  let sent := (walker.entry request.id).request
  have joined {entry : LeafEntry} (joins : joinsRead sent entry = true) :
      joinRead sent request.id entry = { entry with state := .memoryWait request.id } :=
    if_pos joins
  have left {entry : LeafEntry} (apart : ¬ joinsRead sent entry = true) :
      joinRead sent request.id entry = entry := if_neg apart
  constructor
  · intro index
    rw [changed.entry]
    by_cases joins : joinsRead sent (walker.entry index) = true
    · have unread := settled.unread index
      unfold LeafEntry.Unread at unread
      rw [joined joins]
      rcases (joinsRead_states joins).1 with state | state
      all_goals
        rw [state] at unread
        exact LeafEntry.unread_of_block unread
    · rw [left joins]
      exact settled.unread index
  · intro reader seeker reads seeks
    rw [changed.entry] at reads seeks
    rw [changed.entry, changed.entry, joinRead_request, joinRead_request]
    by_cases seekerJoins : joinsRead sent (walker.entry seeker) = true
    · rw [joined seekerJoins] at seeks
      exact absurd seeks (LeafEntry.not_seeks nofun nofun)
    · rw [left seekerJoins] at seeks
      by_cases readerJoins : joinsRead sent (walker.entry reader) = true
      · rw [Bool.eq_false_iff]
        intro shares
        have taken := Request.sharesSector_trans shares (joinsRead_states readerJoins).2
        apply seekerJoins
        simp only [joinsRead, Bool.and_eq_true, Bool.or_eq_true, beq_iff_eq]
        exact ⟨seeks.symm, taken⟩
      · rw [left readerJoins] at reads
        exact settled.single reader seeker reads seeks

theorem Settled.takeBlock
    (settled : walker.Settled) (params : Params) (block : Block) {id : Nat}
    (waits : walker.awaitsBlock id = true) :
    (takeBlock params id block walker).state.Settled := by
  obtain ⟨changed, _, _⟩ := takeBlock_spec params block ((awaitsBlock_iff _ _).1 waits)
  refine settled.changed changed fun index => ?_
  unfold takeRead
  by_cases waitsHere : (walker.entry index).state = .memoryWait id
  · rw [waitsHere, beq_self_eq_true, if_pos rfl]
    exact
      { request := LeafEntry.withBlock_request _ params block
        unread := LeafEntry.unread_withBlock _ params block
        reads := fun _ => (LeafEntry.hasRead_iff _).2 (Or.inl ⟨id, waitsHere⟩)
        seeks := fun seeks => absurd seeks (LeafEntry.not_seeks_withBlock _ params block) }
  · rw [if_neg (by simpa using waitsHere)]
    exact .refl (settled.unread index)

theorem Settled.fireStageTwo
    (settled : walker.Settled) (params : Params) {request : StageTwoRequest}
    (wants : walker.wantsStageTwo = true) (chosen : walker.stageTwoRequest? = some request) :
    (fireStageTwo params walker).state.Settled := by
  obtain ⟨_, _, _, _, _, ⟨changed, _⟩ | ⟨changed, _⟩⟩ := fireStageTwo_cases params wants chosen
  · refine settled.changed changed fun index => ?_
    have unread := settled.unread index
    unfold joinTable
    split
    · rename_i asks
      simp only [Bool.and_eq_true, beq_iff_eq] at asks
      unfold LeafEntry.Unread at unread
      rw [asks.1] at unread
      refine ⟨rfl, LeafEntry.unread_of_block unread, ?_, ?_⟩
      · intro reads
        exact absurd reads (LeafEntry.not_hasRead unread nofun)
      · intro seeks
        exact absurd seeks (LeafEntry.not_seeks nofun nofun)
    · exact .refl unread
  · refine settled.changed changed fun index => ?_
    unfold joinLast
    split
    · rename_i asks
      simp only [Bool.and_eq_true, beq_iff_eq] at asks
      refine ⟨rfl, trivial, ?_, ?_⟩
      · intro reads
        rw [LeafEntry.hasRead_iff] at reads ⊢
        exact Or.inr (reads.resolve_left nofun)
      · intro seeks
        exact absurd seeks (LeafEntry.not_seeks nofun nofun)
    · exact .refl (settled.unread index)

private theorem Settled.delivered
    {params : Params} {id index : Nat} {result : StageTwoResult} {entry : LeafEntry}
    (settled : walker.Settled) (delivered : Delivered params id result walker index entry)
    (replaced : Replaced walker after index entry) : after.Settled := by
  have unread := settled.unread index
  unfold LeafEntry.Unread at unread
  cases delivered with
  | unmapped waits =>
      rw [waits] at unread
      refine settled.advance replaced ⟨rfl, trivial, ?_, ?_⟩
      · intro reads
        exact absurd reads (LeafEntry.not_hasRead unread nofun)
      · intro seeks
        exact absurd seeks (LeafEntry.not_seeks nofun nofun)
  | last waits =>
      refine settled.advance replaced ⟨rfl, trivial, ?_, ?_⟩
      · intro reads
        rw [LeafEntry.hasRead_iff] at reads ⊢
        exact Or.inr (reads.resolve_left nofun)
      · intro seeks
        exact absurd seeks (LeafEntry.not_seeks nofun nofun)
  | table waits _ placed =>
      rw [waits] at unread
      have preparation := replaced_setEntry replaced.inside
        { walker.entry index with
          host := result.hostPage (walker.entry index).table
          state := .addressCheck }
      exact settled.placed preparation unread placed replaced

theorem Settled.takeStageTwo
    (settled : walker.Settled) (params : Params) (id : Nat) (result : StageTwoResult)
    (linked : walker.Linked) (busy : walker.stageTwoBusy = true) :
    (takeStageTwo params id result walker).state.Settled := by
  refine takeStageTwo_induction params Settled linked busy ?_ ⟨settled.unread, settled.single⟩
  intro index current after entry _ here delivered replaced
  exact here.delivered delivered replaced

theorem Settled.takeFinished
    (settled : walker.Settled) (params : Params) {index : Nat}
    (found : walker.finishedIndex? = some index) :
    (takeFinished params walker).state.Settled :=
  settled.freed (takeFinished_spec params found).1

private theorem Ticked.advances
    {protection : Protection} {entry next : LeafEntry} (unread : entry.Unread)
    (ticked : Ticked protection entry next) : Advances entry next := by
  have same := unread
  unfold LeafEntry.Unread at unread
  cases ticked with
  | denied watchdog due fault =>
      rw [due] at unread
      refine ⟨rfl, trivial, ?_, ?_⟩
      · intro reads
        exact absurd reads (LeafEntry.not_hasRead unread nofun)
      · intro seeks
        exact absurd seeks (LeafEntry.not_seeks nofun nofun)
  | passed watchdog due =>
      rw [due] at unread
      refine ⟨rfl, LeafEntry.unread_of_block unread, ?_, fun _ => Or.inl due⟩
      intro reads
      exact absurd reads (LeafEntry.not_hasRead unread nofun)
  | unchecked watchdog notDue =>
      exact ⟨rfl, same, fun reads => reads, fun seeks => seeks⟩

theorem Settled.tick
    (settled : walker.Settled) (params : Params) (protection : Protection) :
    (tick params protection walker).state.Settled := by
  refine (tick_induction params Settled ?_ ?_ settled).1
  · intro index current after entry before ticked replaced
    exact before.advance replaced (ticked.advances (before.unread index))
  · intro current before cycle
    exact ⟨before.unread, before.single⟩

end LeafWalker

end PageWalk
