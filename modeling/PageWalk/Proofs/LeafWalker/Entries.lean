import PageWalk.LeafWalker
import PageWalk.Proofs.Outcome

/-!
# Operations on the leaf walker, entry by entry

Every operation of the leaf walker replaces one entry or changes all entries by one
function. For the operations that choose among several ways on, a relation or a case
lemma lists the entries that they can leave behind.
-/

namespace PageWalk

/-! ## One entry -/

namespace LeafEntry

/-- The guest page that an entry waits for, behind the entry that has asked for it. -/
def awaitedPage? (entry : LeafEntry) : Option (Nat × Word) :=
  match entry.state with
  | .tableWait owner => some (owner, entry.table)
  | .lastWait owner => some (owner, entry.lastPage)
  | _ => none

/-- The lookup that an entry walks for, unless it is idle. -/
def held? (entry : LeafEntry) : Option Request :=
  if entry.isIdle then none else some entry.request

theorem isIdle_iff (entry : LeafEntry) : entry.isIdle = true ↔ entry.state = .idle := by
  simp [isIdle]

theorem held_of_idle {entry : LeafEntry} (idle : entry.state = .idle) :
    entry.held? = none := by
  simp [held?, isIdle, idle]

theorem held_of_busy {entry : LeafEntry} (busy : entry.state ≠ .idle) :
    entry.held? = some entry.request := by
  simp [held?, isIdle, busy]

theorem memoryOwner_eq_some {entry : LeafEntry} {owner : Nat} :
    entry.memoryOwner? = some owner ↔ entry.state = .memoryWait owner := by
  unfold memoryOwner?
  cases entry.state <;> simp

/-- An entry waits for at most one thing. -/
theorem awaitedPage_of_memoryWait
    {entry : LeafEntry} {owner : Nat} (waits : entry.state = .memoryWait owner) :
    entry.awaitedPage? = none := by
  simp [awaitedPage?, waits]

/-- With its block an entry is finished, or it needs its guest page translated. -/
theorem withBlock_state (entry : LeafEntry) (params : Params) (block : Block) :
    (entry.withBlock params block).state = .lastRequest ∨
      (entry.withBlock params block).state = .finished := by
  unfold withBlock
  dsimp only
  split
  · exact Or.inl rfl
  · exact Or.inr rfl

@[simp]
theorem withBlock_request (entry : LeafEntry) (params : Params) (block : Block) :
    (entry.withBlock params block).request = entry.request := by
  unfold withBlock
  dsimp only
  split <;> rfl

@[simp]
theorem withBlock_awaitedPage (entry : LeafEntry) (params : Params) (block : Block) :
    (entry.withBlock params block).awaitedPage? = none := by
  rcases entry.withBlock_state params block with state | state <;> simp [awaitedPage?, state]

@[simp]
theorem withBlock_memoryOwner (entry : LeafEntry) (params : Params) (block : Block) :
    (entry.withBlock params block).memoryOwner? = none := by
  rcases entry.withBlock_state params block with state | state <;> simp [memoryOwner?, state]

theorem withBlock_busy (entry : LeafEntry) (params : Params) (block : Block) :
    (entry.withBlock params block).state ≠ .idle := by
  rcases entry.withBlock_state params block with state | state <;> simp [state]

/-- What an entry tells the cache about the block that it has read. -/
def refill (entry : LeafEntry) (block : Block) : Refill where
  block := block
  level := leafLevel
  request := entry.request
  selected := ⟨leafAt block entry.request.vpn⟩

end LeafEntry

/-- The entry that a leaf walk is accepted into. -/
def LeafRequest.claim (leaf : LeafRequest) : LeafEntry :=
  { state := .addressCheck, request := leaf.request, table := leaf.ppn }

theorem Request.sharesSector_iff (request other : Request) :
    request.sharesSector other = true ↔
      sectorTag request.vpn = sectorTag other.vpn ∧ request.mode = other.mode := by
  simp [Request.sharesSector]

theorem Request.sharesSector_refl (request : Request) :
    request.sharesSector request = true :=
  (request.sharesSector_iff request).2 ⟨rfl, rfl⟩

theorem Request.sharesSector_trans
    {first second third : Request}
    (left : first.sharesSector second = true) (right : second.sharesSector third = true) :
    first.sharesSector third = true := by
  rw [Request.sharesSector_iff] at left right ⊢
  exact ⟨left.1.trans right.1, left.2.trans right.2⟩

theorem Request.sharesSector_symm
    {request other : Request} (shared : request.sharesSector other = true) :
    other.sharesSector request = true := by
  rw [Request.sharesSector_iff] at shared ⊢
  exact ⟨shared.1.symm, shared.2.symm⟩

namespace LeafWalker

/-! ## Reading entries -/

theorem entry_of_size_le
    {walker : LeafWalker} {index : Nat} (outside : walker.entries.size ≤ index) :
    walker.entry index = {} := by
  simp [entry, Array.getD_eq_getD_getElem?, outside]

theorem entry_create (params : Params) (index : Nat) : (create params).entry index = {} := by
  unfold entry create
  by_cases inside : index < params.leafWalkerSize.toNat
  · simp [Array.getD_eq_getD_getElem?, inside]
  · simp [Array.getD_eq_getD_getElem?, inside]

theorem lt_size_of_busy
    {walker : LeafWalker} {index : Nat} (busy : (walker.entry index).state ≠ .idle) :
    index < walker.entries.size := by
  by_cases inside : index < walker.entries.size
  · exact inside
  · rw [entry_of_size_le (Nat.not_lt.1 inside)] at busy
    exact absurd rfl busy

@[simp]
theorem size_setEntry (walker : LeafWalker) (index : Nat) (entry : LeafEntry) :
    (walker.setEntry index entry).entries.size = walker.entries.size := by
  simp [setEntry]

theorem entry_setEntry_self
    {walker : LeafWalker} {index : Nat} (inside : index < walker.entries.size)
    (entry : LeafEntry) :
    (walker.setEntry index entry).entry index = entry := by
  simp [setEntry, LeafWalker.entry, inside]

theorem entry_setEntry_of_ne
    (walker : LeafWalker) {index other : Nat} (different : other ≠ index)
    (entry : LeafEntry) :
    (walker.setEntry index entry).entry other = walker.entry other := by
  simp [setEntry, LeafWalker.entry, Array.getD_eq_getD_getElem?, different.symm]

/-! ## Two kinds of change -/

/-- One entry was replaced. -/
structure Replaced (walker after : LeafWalker) (index : Nat) (entry : LeafEntry) : Prop where
  size : after.entries.size = walker.entries.size
  busy : after.stageTwoBusy = walker.stageTwoBusy
  inside : index < walker.entries.size
  here : after.entry index = entry
  elsewhere : ∀ other, other ≠ index → after.entry other = walker.entry other

theorem replaced_setEntry
    {walker : LeafWalker} {index : Nat} (inside : index < walker.entries.size)
    (entry : LeafEntry) : Replaced walker (walker.setEntry index entry) index entry where
  size := size_setEntry walker index entry
  busy := rfl
  inside := inside
  here := entry_setEntry_self inside entry
  elsewhere _ different := entry_setEntry_of_ne walker different entry

theorem Replaced.of_entries_eq
    {walker after other : LeafWalker} {index : Nat} {entry : LeafEntry}
    (replaced : Replaced walker after index entry)
    (entries : other.entries = after.entries)
    (busy : other.stageTwoBusy = after.stageTwoBusy) :
    Replaced walker other index entry := by
  have same (tested : Nat) : other.entry tested = after.entry tested := by
    simp only [LeafWalker.entry, entries]
  exact
    { size := by rw [entries, replaced.size]
      busy := by rw [busy, replaced.busy]
      inside := replaced.inside
      here := by rw [same, replaced.here]
      elsewhere := fun tested different => by
        rw [same, replaced.elsewhere tested different] }

theorem Replaced.trans
    {walker middle after : LeafWalker} {index : Nat} {first second : LeafEntry}
    (left : Replaced walker middle index first) (right : Replaced middle after index second) :
    Replaced walker after index second where
  size := right.size.trans left.size
  busy := right.busy.trans left.busy
  inside := left.inside
  here := right.here
  elsewhere other different :=
    (right.elsewhere other different).trans (left.elsewhere other different)

/-- All entries were changed by one function. -/
structure Changed (walker after : LeafWalker) (change : LeafEntry → LeafEntry) : Prop where
  size : after.entries.size = walker.entries.size
  entry : ∀ index, after.entry index = change (walker.entry index)

/-- A function that keeps the idle entry acts on every entry. -/
theorem changed_map
    {walker after : LeafWalker} {change : LeafEntry → LeafEntry}
    (entries : after.entries = walker.entries.map change) (idle : change {} = {}) :
    Changed walker after change := by
  constructor
  · rw [entries, Array.size_map]
  · intro index
    simp only [LeafWalker.entry, entries, Array.getD_eq_getD_getElem?, Array.getElem?_map]
    cases walker.entries[index]? with
    | none => exact idle.symm
    | some found => rfl

/-! ## Searches -/

theorem free_spec
    {walker : LeafWalker} {index : Nat} (found : walker.freeIndex? = some index) :
    index < walker.entries.size ∧ (walker.entry index).state = .idle := by
  have member : index ∈ walker.indices := List.mem_of_find?_eq_some found
  have idle := List.find?_some found
  exact ⟨List.mem_range.1 member, (LeafEntry.isIdle_iff _).1 idle⟩

theorem finished_spec
    {walker : LeafWalker} {index : Nat} (found : walker.finishedIndex? = some index) :
    index < walker.entries.size ∧ (walker.entry index).state = .finished := by
  have member : index ∈ walker.indices := List.mem_of_find?_eq_some found
  have finished := List.find?_some found
  exact ⟨List.mem_range.1 member, by simpa [inState] using finished⟩

/-- What an entry knows about a sibling that it found. -/
structure Sibling (walker : LeafWalker) (index sibling : Nat) : Prop where
  other : sibling ≠ index
  busy : (walker.entry sibling).state ≠ .idle
  shares :
    (walker.entry sibling).request.sharesSector (walker.entry index).request = true
  reads : (walker.entry sibling).hasRead = true

theorem sibling_spec
    {walker : LeafWalker} {index sibling : Nat}
    (found : walker.sibling? index = some sibling) : walker.Sibling index sibling := by
  have passed := List.find?_some found
  simp only [Bool.and_eq_true, bne_iff_ne, ne_eq, Bool.not_eq_true'] at passed
  obtain ⟨⟨⟨other, busy⟩, shares⟩, reads⟩ := passed
  refine ⟨other, ?_, shares, reads⟩
  intro idle
  rw [(LeafEntry.isIdle_iff _).2 idle] at busy
  cases busy

/-- A choice of an arbiter is an entry in the state that was searched for. -/
theorem pick_inState
    {walker : LeafWalker} {arbiter : RoundRobin} {state : LeafState} {index : Nat}
    (picked : arbiter.pick (walker.inState state) = some index) :
    (walker.entry index).state = state := by
  have passed := List.find?_some picked
  simpa [inState] using passed

/-! ## Placing an entry -/

/-- The entries that `place` can leave at an index. -/
inductive Placed (params : Params) (walker : LeafWalker) (index : Nat) : LeafEntry → Prop
  /-- No sibling has a read, so the entry checks its own address. -/
  | alone (none : walker.sibling? index = none) :
      Placed params walker index { walker.entry index with state := .addressCheck }
  /-- A sibling has the block. -/
  | copied (sibling : Nat) (block : Block) (found : walker.Sibling index sibling)
      (holds : (walker.entry sibling).block = some block) :
      Placed params walker index ((walker.entry index).withBlock params block)
  /-- A sibling waits for the block. -/
  | joined (sibling owner : Nat) (found : walker.Sibling index sibling)
      (waits : (walker.entry sibling).state = .memoryWait owner) :
      Placed params walker index { walker.entry index with state := .memoryWait owner }

theorem place_cases
    (params : Params) {index : Nat} {walker : LeafWalker}
    (inside : index < walker.entries.size) :
    ∃ entry,
      Placed params walker index entry ∧
        Replaced walker (place params index walker).state index entry ∧
        (place params index walker).Uneventful := by
  unfold place
  dsimp only
  cases found : walker.sibling? index with
  | none =>
      exact ⟨_, .alone found, replaced_setEntry inside _, rfl, rfl⟩
  | some sibling =>
      have spec := sibling_spec found
      cases holds : (walker.entry sibling).block with
      | some block =>
          refine ⟨_, .copied sibling block spec holds, ?_⟩
          simp only [entry] at holds
          simp only [entry, holds]
          exact ⟨(replaced_setEntry inside _).of_entries_eq rfl rfl, rfl, rfl⟩
      | none =>
          have reads := spec.reads
          simp only [LeafEntry.hasRead, holds, Option.isSome_none, Bool.or_false] at reads
          obtain ⟨owner, waits⟩ := Option.isSome_iff_exists.1 reads
          refine ⟨_, .joined sibling owner spec (LeafEntry.memoryOwner_eq_some.1 waits), ?_⟩
          simp only [entry] at holds waits
          simp only [entry, holds, waits]
          exact ⟨(replaced_setEntry inside _).of_entries_eq rfl rfl, rfl, rfl⟩

theorem Placed.request
    {params : Params} {walker : LeafWalker} {index : Nat} {entry : LeafEntry}
    (placed : Placed params walker index entry) :
    entry.request = (walker.entry index).request := by
  cases placed with
  | alone | joined => rfl
  | copied => exact LeafEntry.withBlock_request _ params _

theorem Placed.busy
    {params : Params} {walker : LeafWalker} {index : Nat} {entry : LeafEntry}
    (placed : Placed params walker index entry) : entry.state ≠ .idle := by
  cases placed with
  | alone | joined => nofun
  | copied => exact LeafEntry.withBlock_busy _ params _

theorem Placed.awaitedPage
    {params : Params} {walker : LeafWalker} {index : Nat} {entry : LeafEntry}
    (placed : Placed params walker index entry) : entry.awaitedPage? = none := by
  cases placed with
  | alone | joined => rfl
  | copied => exact LeafEntry.withBlock_awaitedPage _ params _

/-- A placed entry waits only for the read that a sibling waits for. -/
theorem Placed.joins
    {params : Params} {walker : LeafWalker} {index owner : Nat} {entry : LeafEntry}
    (placed : Placed params walker index entry) (waits : entry.state = .memoryWait owner) :
    ∃ sibling, walker.Sibling index sibling ∧
      (walker.entry sibling).state = .memoryWait owner := by
  cases placed with
  | alone => cases waits
  | copied sibling block =>
      have none := LeafEntry.withBlock_memoryOwner (walker.entry index) params block
      rw [LeafEntry.memoryOwner_eq_some.2 waits] at none
      cases none
  | joined sibling waitedFor found siblingWaits =>
      cases waits
      exact ⟨sibling, found, siblingWaits⟩

/-- Only the entries decide how an entry is placed. -/
theorem Placed.of_entries_eq
    {params : Params} {walker other : LeafWalker} {index : Nat} {entry : LeafEntry}
    (placed : Placed params walker index entry) (same : walker.entries = other.entries) :
    Placed params other index entry := by
  cases walker
  cases other
  cases same
  cases placed with
  | alone none => exact .alone none
  | copied sibling block found holds =>
      exact .copied sibling block ⟨found.1, found.2, found.3, found.4⟩ holds
  | joined sibling owner found waits =>
      exact .joined sibling owner ⟨found.1, found.2, found.3, found.4⟩ waits

/-! ## Accepting a walk -/

/-- The entries that an accepted walk can be left in. -/
inductive Admitted (params : Params) (walker : LeafWalker) (index : Nat) (leaf : LeafRequest) :
    LeafEntry → Prop
  /-- The first nested walk of a sector has its table page translated. -/
  | table (nested : leaf.request.mode = .nested) :
      Admitted params walker index leaf { leaf.claim with state := .tableRequest }
  | placed {entry : LeafEntry}
      (placed : Placed params (walker.setEntry index leaf.claim) index entry)
      (shared : leaf.request.mode = .nested →
        (walker.setEntry index leaf.claim).sibling? index ≠ none) :
      Admitted params walker index leaf entry

private theorem admitted_of_claim
    (params : Params) (leaf : LeafRequest) {walker : LeafWalker} {index : Nat}
    (inside : index < walker.entries.size) (requests : Nat) :
    let claimed := walker.setEntry index leaf.claim
    let counted := { claimed with requests := requests }
    let next : Outcome LeafWalker :=
      if leaf.request.mode = .nested && (claimed.sibling? index).isNone then
        { state := counted.setEntry index { counted.entry index with state := .tableRequest } }
      else
        place params index counted
    ∃ entry,
      Admitted params walker index leaf entry ∧
        Replaced walker next.state index entry ∧ next.Uneventful := by
  intro claimed counted next
  have claim : Replaced walker counted index leaf.claim :=
    (replaced_setEntry inside leaf.claim).of_entries_eq rfl rfl
  have insideCounted : index < counted.entries.size := by
    rw [claim.size]
    exact inside
  by_cases first : (decide (leaf.request.mode = .nested) &&
      (claimed.sibling? index).isNone) = true
  · have nested : leaf.request.mode = .nested := by
      simp only [Bool.and_eq_true, decide_eq_true_eq] at first
      exact first.1
    have taken : next =
        { state := counted.setEntry index { counted.entry index with state := .tableRequest } } :=
      if_pos first
    rw [taken, claim.here]
    exact ⟨_, .table nested, claim.trans (replaced_setEntry insideCounted _), rfl, rfl⟩
  · have taken : next = place params index counted := if_neg first
    obtain ⟨entry, placed, replaced, uneventful⟩ := place_cases params insideCounted
    rw [taken]
    refine ⟨entry, .placed (placed.of_entries_eq rfl) ?_, claim.trans replaced, uneventful⟩
    intro nested none
    apply first
    simp [nested, claimed, none]

/-- An accepted walk is dropped, if it is a prefetch, or takes a free entry. -/
theorem accept_cases
    (params : Params) (leaf : LeafRequest) {walker : LeafWalker} (ready : walker.ready = true) :
    ∃ index, (walker.entry index).state = .idle ∧ (accept params leaf walker).fault = none ∧
      ((Replaced walker (accept params leaf walker).state index {} ∧
          (accept params leaf walker).discarded = [leaf.request]) ∨
        ∃ entry, Admitted params walker index leaf entry ∧
          Replaced walker (accept params leaf walker).state index entry ∧
          (accept params leaf walker).discarded = []) := by
  obtain ⟨index, found⟩ := Option.isSome_iff_exists.1 ready
  obtain ⟨inside, idle⟩ := free_spec found
  refine ⟨index, idle, ?_⟩
  simp only [accept, found]
  unfold acceptAt
  dsimp only
  split
  · exact ⟨rfl, Or.inl ⟨(replaced_setEntry inside {}).of_entries_eq rfl rfl, rfl⟩⟩
  · obtain ⟨entry, admitted, replaced, uneventful⟩ :=
      admitted_of_claim params leaf inside (walker.requests + 1)
    exact ⟨uneventful.running,
      Or.inr ⟨entry, admitted, replaced, uneventful.keeps⟩⟩

/-- Only prefetches are dropped. -/
theorem accept_discarded
    (params : Params) (leaf : LeafRequest) {walker : LeafWalker} (ready : walker.ready = true) :
    ∀ request ∈ (accept params leaf walker).discarded, request.isPrefetch = true := by
  obtain ⟨index, found⟩ := Option.isSome_iff_exists.1 ready
  obtain ⟨inside, _⟩ := free_spec found
  simp only [accept, found]
  unfold acceptAt
  dsimp only
  split
  · rename_i prefetch
    intro request member
    cases List.mem_singleton.1 member
    exact prefetch
  · obtain ⟨_, _, _, uneventful⟩ := admitted_of_claim params leaf inside (walker.requests + 1)
    intro request member
    exact absurd ((congrArg (request ∈ ·) uneventful.keeps).mp member) List.not_mem_nil

/-! ## Memory -/

/-- An entry after the read of the entry `chosen` was sent. -/
def joinRead (request : Request) (chosen : Nat) (entry : LeafEntry) : LeafEntry :=
  if joinsRead request entry then { entry with state := .memoryWait chosen } else entry

/-- An entry after the block of the entry `id` has come. -/
def takeRead (params : Params) (id : Nat) (block : Block) (entry : LeafEntry) : LeafEntry :=
  if entry.state == .memoryWait id then entry.withBlock params block else entry

/-- The read that the walker wants is the read of an entry that asks for it. -/
theorem memoryRequest_spec
    {walker : LeafWalker} {request : MemoryRequest}
    (wanted : walker.memoryRequest? = some request) :
    request.address = (walker.entry request.id).address ∧
      (walker.entry request.id).state = .memoryRequest := by
  obtain ⟨chosen, choice, rfl⟩ := Option.map_eq_some_iff.1 wanted
  exact ⟨rfl, pick_inState choice⟩

theorem fireMemory_spec
    (params : Params) {walker : LeafWalker} {request : MemoryRequest}
    (wanted : walker.memoryRequest? = some request) :
    Changed walker (fireMemory params walker).state
        (joinRead (walker.entry request.id).request request.id) ∧
      (fireMemory params walker).state.stageTwoBusy = walker.stageTwoBusy ∧
      (fireMemory params walker).Uneventful := by
  obtain ⟨chosen, choice, rfl⟩ := Option.map_eq_some_iff.1 wanted
  unfold fireMemory
  simp only [choice]
  exact ⟨changed_map rfl rfl, trivial, rfl, rfl⟩

theorem takeBlock_spec
    (params : Params) (block : Block) {walker : LeafWalker} {id : Nat}
    (waits : (walker.entry id).state = .memoryWait id) :
    Changed walker (takeBlock params id block walker).state (takeRead params id block) ∧
      (takeBlock params id block walker).state.stageTwoBusy = walker.stageTwoBusy ∧
      (takeBlock params id block walker).Uneventful := by
  have inside : id < walker.entries.size := lt_size_of_busy (by rw [waits]; nofun)
  unfold takeBlock
  rw [if_neg (Nat.not_le.2 inside)]
  simp only [refill?, waits, beq_self_eq_true, if_true]
  exact ⟨changed_map rfl rfl, trivial, rfl, rfl⟩

/-- A block that the entry `id` does not wait for stops the walker as it is. -/
theorem takeBlock_of_unawaited
    (params : Params) (block : Block) {walker : LeafWalker} {id : Nat}
    (unawaited : (walker.entry id).state ≠ .memoryWait id) :
    takeBlock params id block walker = walker.misuse params (.entryOverflow id) ∨
      takeBlock params id block walker = walker.misuse params (.unexpectedBlock id) := by
  unfold takeBlock
  split
  · exact Or.inl rfl
  · simp only [refill?, beq_iff_eq, unawaited, if_false]
    exact Or.inr trivial

/-- What the walker tells the cache about a block is what its owner has read. -/
theorem refill_spec
    {walker : LeafWalker} {id : Nat} (waits : (walker.entry id).state = .memoryWait id)
    (block : Block) :
    walker.refill? id block = some ((walker.entry id).refill block) := by
  simp only [refill?, waits, beq_self_eq_true, if_true]
  rfl

/-! ## The second stage -/

/-- An entry after the page of a table was asked for. -/
def joinTable (gvpn : Word) (chosen : Nat) (entry : LeafEntry) : LeafEntry :=
  if entry.state == .tableRequest && entry.table == gvpn then
    { entry with state := .tableWait chosen }
  else
    entry

/-- An entry after the page of a leaf was asked for. -/
def joinLast (gvpn : Word) (chosen : Nat) (entry : LeafEntry) : LeafEntry :=
  if entry.state == .lastRequest && entry.lastPage == gvpn then
    { entry with state := .lastWait chosen }
  else
    entry

theorem fireStageTwo_cases
    (params : Params) {walker : LeafWalker} {request : StageTwoRequest}
    (wants : walker.wantsStageTwo = true) (chosen : walker.stageTwoRequest? = some request) :
    request.rootHit = false ∧ request.middleHit = false ∧
      request.id < walker.entries.size ∧
      (fireStageTwo params walker).Uneventful ∧
      (fireStageTwo params walker).state.stageTwoBusy = true ∧
      ((Changed walker (fireStageTwo params walker).state (joinTable request.gvpn request.id) ∧
          (walker.entry request.id).state = .tableRequest ∧
          (walker.entry request.id).table = request.gvpn) ∨
        (Changed walker (fireStageTwo params walker).state (joinLast request.gvpn request.id) ∧
          (walker.entry request.id).state = .lastRequest ∧
          (walker.entry request.id).lastPage = request.gvpn)) := by
  unfold fireStageTwo
  simp only [wants, Bool.not_true, Bool.false_eq_true, if_false]
  unfold stageTwoRequest? at chosen
  cases table : walker.tableChoice? with
  | some index =>
      simp only [table, Option.some.injEq] at chosen ⊢
      subst chosen
      have state : (walker.entry index).state = .tableRequest := pick_inState table
      have inside : index < walker.entries.size := lt_size_of_busy (by rw [state]; nofun)
      exact ⟨rfl, rfl, inside, ⟨rfl, rfl⟩, rfl, Or.inl ⟨changed_map rfl rfl, state, rfl⟩⟩
  | none =>
      cases last : walker.lastChoice? with
      | some index =>
          simp only [table, last, Option.some.injEq] at chosen ⊢
          subst chosen
          have state : (walker.entry index).state = .lastRequest := pick_inState last
          have inside : index < walker.entries.size := lt_size_of_busy (by rw [state]; nofun)
          exact ⟨rfl, rfl, inside, ⟨rfl, rfl⟩, rfl,
            Or.inr ⟨changed_map rfl rfl, state, rfl⟩⟩
      | none =>
          simp [table, last] at chosen

/-- The entries that the delivery of a translation for the entry `id` can leave at an
index that waits for it. -/
inductive Delivered (params : Params) (id : Nat) (result : StageTwoResult)
    (walker : LeafWalker) (index : Nat) : LeafEntry → Prop
  /-- The table page has no translation. -/
  | unmapped (waits : (walker.entry index).state = .tableWait id)
      (fault : result.fault = true) :
      Delivered params id result walker index
        { walker.entry index with stageTwo := some result, state := .finished }
  /-- The table page is known. -/
  | table {entry : LeafEntry} (waits : (walker.entry index).state = .tableWait id)
      (mapped : result.fault = false)
      (placed :
        Placed params
          (walker.setEntry index
            { walker.entry index with
              host := result.hostPage (walker.entry index).table
              state := .addressCheck })
          index entry) :
      Delivered params id result walker index entry
  /-- The leaf page is translated. -/
  | last (waits : (walker.entry index).state = .lastWait id) :
      Delivered params id result walker index
        { walker.entry index with stageTwo := some result, state := .finished }

theorem deliverStageTwo_cases
    (params : Params) (id : Nat) (result : StageTwoResult) {index : Nat}
    {walker : LeafWalker} (inside : index < walker.entries.size) :
    (deliverStageTwo params id result index walker).Uneventful ∧
      (((deliverStageTwo params id result index walker).state = walker ∧
          (walker.entry index).state ≠ .tableWait id ∧
          (walker.entry index).state ≠ .lastWait id) ∨
        ∃ entry, Delivered params id result walker index entry ∧
          Replaced walker (deliverStageTwo params id result index walker).state index entry) := by
  unfold deliverStageTwo
  dsimp only
  by_cases table : (walker.entry index).state = .tableWait id
  · simp only [table, beq_self_eq_true, if_true]
    cases fault : result.fault with
    | true =>
        exact ⟨⟨rfl, rfl⟩, Or.inr ⟨_, .unmapped table fault, replaced_setEntry inside _⟩⟩
    | false =>
        let hosted : LeafEntry :=
          { walker.entry index with
            host := result.hostPage (walker.entry index).table
            state := .addressCheck }
        have claim := replaced_setEntry inside hosted
        have insideHosted : index < (walker.setEntry index hosted).entries.size := by
          rw [claim.size]
          exact inside
        obtain ⟨entry, placed, replaced, uneventful⟩ := place_cases params insideHosted
        exact ⟨uneventful, Or.inr ⟨entry, .table table fault placed, claim.trans replaced⟩⟩
  · by_cases last : (walker.entry index).state = .lastWait id
    · simp only [last, beq_self_eq_true, if_true]
      exact ⟨⟨rfl, rfl⟩, Or.inr ⟨_, .last last, replaced_setEntry inside _⟩⟩
    · rw [if_neg (by simpa using table), if_neg (by simpa using last)]
      exact ⟨⟨rfl, rfl⟩, Or.inl ⟨rfl, table, last⟩⟩

/-! ## Finished entries, steps and flushes -/

theorem takeFinished_spec
    (params : Params) {walker : LeafWalker} {index : Nat}
    (found : walker.finishedIndex? = some index) :
    Replaced walker (takeFinished params walker).state index {} ∧
      (takeFinished params walker).Uneventful := by
  unfold takeFinished
  simp only [found]
  exact ⟨replaced_setEntry (finished_spec found).1 {}, rfl, rfl⟩

/-- The entries that a step can leave of an entry. -/
inductive Ticked (protection : Protection) (entry : LeafEntry) : LeafEntry → Prop
  | denied (watchdog : Watchdog) (due : entry.state = .addressCheck)
      (fault : (protection entry.address).accessFault = true) :
      Ticked protection entry
        { entry with denied := true, state := .finished, watchdog := watchdog }
  | passed (watchdog : Watchdog) (due : entry.state = .addressCheck)
      (allowed : (protection entry.address).accessFault = false) :
      Ticked protection entry { entry with state := .memoryRequest, watchdog := watchdog }
  | unchecked (watchdog : Watchdog) (notDue : entry.state ≠ .addressCheck) :
      Ticked protection entry { entry with watchdog := watchdog }

theorem watch_spec
    (params : Params) {index : Nat} {walker : LeafWalker}
    (inside : index < walker.entries.size) :
    (∃ watchdog,
      Replaced walker (watch params index walker).state index
        { walker.entry index with watchdog := watchdog }) ∧
      (watch params index walker).Uneventful := by
  refine ⟨⟨_, (replaced_setEntry inside _).of_entries_eq rfl rfl⟩, rfl, ?_⟩
  unfold watch Outcome.discarded
  dsimp only
  split <;> rfl

theorem tickEntry_cases
    (params : Params) (protection : Protection) {index : Nat} {walker : LeafWalker}
    (inside : index < walker.entries.size) :
    (tickEntry params protection index walker).Uneventful ∧
      ∃ entry, Ticked protection (walker.entry index) entry ∧
        Replaced walker (tickEntry params protection index walker).state index entry := by
  have next (first : Outcome LeafWalker) (uneventful : first.Uneventful) {left : LeafEntry}
      (replaced : Replaced walker first.state index left) :
      (first.andThen (watch params index)).Uneventful ∧
        ∃ watchdog,
          Replaced walker (first.andThen (watch params index)).state index
            { left with watchdog := watchdog } := by
    have insideFirst : index < first.state.entries.size := by
      rw [replaced.size]
      exact inside
    obtain ⟨⟨watchdog, watched⟩, calm⟩ := watch_spec params insideFirst
    rw [replaced.here] at watched
    refine ⟨uneventful.andThen calm, watchdog, ?_⟩
    rw [Outcome.andThen_state_of_running _ uneventful.running]
    exact replaced.trans watched
  unfold tickEntry
  by_cases due : (walker.entry index).state = .addressCheck
  · by_cases fault : (protection (walker.entry index).address).accessFault = true
    · have checked :
          (checkAddress params protection index walker).Uneventful ∧
            Replaced walker (checkAddress params protection index walker).state index
              { walker.entry index with denied := true, state := .finished } := by
        simp only [checkAddress, due, beq_self_eq_true, if_true, fault]
        exact ⟨⟨rfl, rfl⟩, (replaced_setEntry inside _).of_entries_eq rfl rfl⟩
      obtain ⟨uneventful, watchdog, replaced⟩ := next _ checked.1 checked.2
      exact ⟨uneventful, _, .denied watchdog due fault, replaced⟩
    · have checked :
          (checkAddress params protection index walker).Uneventful ∧
            Replaced walker (checkAddress params protection index walker).state index
              { walker.entry index with state := .memoryRequest } := by
        simp only [checkAddress, due, beq_self_eq_true, if_true, fault]
        exact ⟨⟨rfl, rfl⟩, replaced_setEntry inside _⟩
      obtain ⟨uneventful, watchdog, replaced⟩ := next _ checked.1 checked.2
      exact ⟨uneventful, _, .passed watchdog due (Bool.eq_false_iff.2 fault), replaced⟩
  · have checked : checkAddress params protection index walker = { state := walker } := by
      simp only [checkAddress, beq_iff_eq, due, if_false]
    obtain ⟨⟨watchdog, watched⟩, calm⟩ := watch_spec params inside
    rw [checked]
    exact ⟨Outcome.Uneventful.andThen ⟨rfl, rfl⟩ calm, _, .unchecked watchdog due, watched⟩

/-- What is kept while a step goes from entry to entry holds after the step, which is
uneventful. -/
theorem tick_induction
    (params : Params) {protection : Protection} (holds : LeafWalker → Prop)
    {walker : LeafWalker}
    (step : ∀ {index current after entry}, holds current →
      Ticked protection (current.entry index) entry → Replaced current after index entry →
        holds after)
    (cycles : ∀ {current}, holds current →
      ∀ cycle, holds { current with cycle := cycle })
    (start : holds walker) :
    holds (tick params protection walker).state ∧
      (tick params protection walker).Uneventful := by
  let reached (current : LeafWalker) : Prop :=
    current.entries.size = walker.entries.size ∧ holds current
  have inside (index : Nat) (member : index ∈ walker.indices) {current : LeafWalker}
      (before : reached current) : index < current.entries.size := by
    rw [before.1]
    exact List.mem_range.1 member
  have each (index : Nat) (member : index ∈ walker.indices) (current : LeafWalker)
      (before : reached current) : (tickEntry params protection index current).Uneventful :=
    (tickEntry_cases params protection (inside index member before)).1
  have next (index : Nat) (member : index ∈ walker.indices) (current : LeafWalker)
      (before : reached current) :
      reached (tickEntry params protection index current).state := by
    obtain ⟨_, entry, ticked, replaced⟩ :=
      tickEntry_cases params protection (inside index member before)
    exact ⟨replaced.size.trans before.1, step before.2 ticked replaced⟩
  have calm := Outcome.forEach_uneventful each next ⟨rfl, start⟩
  have done := Outcome.forEach_state_induction next ⟨rfl, start⟩
  refine ⟨?_, calm.andThen ⟨rfl, rfl⟩⟩
  unfold tick
  rw [Outcome.andThen_state_of_running _ calm.running]
  exact cycles done.2 _

theorem entry_flush (walker : LeafWalker) (index : Nat) : walker.flush.entry index = {} := by
  have changed : Changed walker walker.flush fun _ => {} := changed_map rfl rfl
  exact changed.entry index

end LeafWalker

end PageWalk
