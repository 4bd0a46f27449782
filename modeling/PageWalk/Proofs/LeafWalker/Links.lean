import Mathlib.Data.List.Basic
import PageWalk.Proofs.LeafWalker.Entries

/-!
# Who waits for whom in the leaf walker

Entries of one sector share one read, and the entry that sent it waits for it as
well: `Linked`. One guest page at a time is asked for, and every entry that waits
for a guest page waits for that one: `Orderly`. Each operation keeps both, says
which entries wait for a block of their own afterwards, and moves no lookup but the
ones that it takes in or hands out.
-/

namespace PageWalk.LeafWalker

/-! ## Waiting and holding -/

/-- The read of an entry is on its way. -/
def awaitsBlock (walker : LeafWalker) (id : Nat) : Bool :=
  (walker.entry id).state == .memoryWait id

/-- The lookups of the busy entries. -/
def heldRequests (walker : LeafWalker) : List Request :=
  walker.indices.filterMap fun index => (walker.entry index).held?

/-- An entry that waits for the read of another one has its sector, and the other
one waits for that read too. -/
def Linked (walker : LeafWalker) : Prop :=
  ∀ index owner, (walker.entry index).state = .memoryWait owner →
    (walker.entry owner).state = .memoryWait owner ∧
      (walker.entry index).request.sharesSector (walker.entry owner).request = true

/-- `ticket` is the guest page that the walker has asked for, behind the entry that
it was asked for. That entry waits for it. -/
structure Orderly (walker : LeafWalker) (ticket : Option (Nat × Word)) : Prop where
  linked : walker.Linked
  waits : ∀ index page, (walker.entry index).awaitedPage? = some page → ticket = some page
  busy : walker.stageTwoBusy = ticket.isSome
  asked : ∀ page, ticket = some page → (walker.entry page.1).awaitedPage? = some page

theorem lt_size_of_awaitedPage
    {walker : LeafWalker} {index : Nat} {page : Nat × Word}
    (waits : (walker.entry index).awaitedPage? = some page) : index < walker.entries.size := by
  apply lt_size_of_busy
  intro idle
  simp [LeafEntry.awaitedPage?, idle] at waits

theorem Orderly.inside
    {walker : LeafWalker} {ticket : Option (Nat × Word)} (orderly : walker.Orderly ticket) :
    ∀ page, ticket = some page → page.1 < walker.entries.size :=
  fun page asked => lt_size_of_awaitedPage (orderly.asked page asked)

theorem awaitsBlock_iff (walker : LeafWalker) (id : Nat) :
    walker.awaitsBlock id = true ↔ (walker.entry id).state = .memoryWait id := by
  simp [awaitsBlock]

private theorem bool_eq_of_iff {left right : Bool} (same : left = true ↔ right = true) :
    left = right := by
  cases left <;> cases right <;> simp_all

/-! ## Lookups of the entries -/

theorem filterMap_perm_of_update
    {Found : Type} {before after : Nat → Option Found} {index : Nat} {items : List Nat}
    (nodup : items.Nodup) (member : index ∈ items)
    (elsewhere : ∀ other, other ≠ index → after other = before other) :
    ((before index).toList ++ items.filterMap after).Perm
      ((after index).toList ++ items.filterMap before) := by
  induction items with
  | nil => cases member
  | cons head tail inductionHypothesis =>
      obtain ⟨absent, tailNodup⟩ := List.nodup_cons.1 nodup
      have consFilter (choose : Nat → Option Found) :
          (head :: tail).filterMap choose = (choose head).toList ++ tail.filterMap choose := by
        cases chosen : choose head <;> simp [chosen]
      rw [consFilter before, consFilter after]
      by_cases here : head = index
      · have tails : tail.filterMap after = tail.filterMap before := by
          apply List.filterMap_congr
          intro other otherMember
          exact elsewhere other fun equal => absent (by rw [here, ← equal]; exact otherMember)
        rw [here, tails]
        exact List.perm_append_comm_assoc _ _ _
      · have tailMember : index ∈ tail := by
          rcases List.mem_cons.1 member with equal | tailMember
          · exact absurd equal.symm here
          · exact tailMember
        rw [elsewhere head here]
        calc
          List.Perm
              ((before index).toList ++ ((before head).toList ++ tail.filterMap after))
              ((before head).toList ++ ((before index).toList ++ tail.filterMap after)) :=
            List.perm_append_comm_assoc _ _ _
          List.Perm _
              ((before head).toList ++ ((after index).toList ++ tail.filterMap before)) :=
            (inductionHypothesis tailNodup tailMember).append_left _
          List.Perm _
              ((after index).toList ++ ((before head).toList ++ tail.filterMap before)) :=
            List.perm_append_comm_assoc _ _ _

theorem Replaced.heldRequests
    {walker after : LeafWalker} {index : Nat} {entry : LeafEntry}
    (replaced : Replaced walker after index entry) :
    ((walker.entry index).held?.toList ++ after.heldRequests).Perm
      (entry.held?.toList ++ walker.heldRequests) := by
  unfold LeafWalker.heldRequests indices
  rw [replaced.size]
  have elsewhere (other : Nat) (different : other ≠ index) :
      (after.entry other).held? = (walker.entry other).held? := by
    rw [replaced.elsewhere other different]
  have perm :=
    filterMap_perm_of_update List.nodup_range (List.mem_range.2 replaced.inside) elsewhere
  simpa only [replaced.here] using perm

/-! ## Entries that stay alike -/

/-- Nothing changed that other entries or the lookups depend on. -/
structure Alike (walker after : LeafWalker) : Prop where
  size : after.entries.size = walker.entries.size
  owner : ∀ index, (after.entry index).memoryOwner? = (walker.entry index).memoryOwner?
  request : ∀ index, (after.entry index).request = (walker.entry index).request
  held : ∀ index, (after.entry index).held? = (walker.entry index).held?

theorem Alike.refl (walker : LeafWalker) : Alike walker walker :=
  ⟨rfl, fun _ => rfl, fun _ => rfl, fun _ => rfl⟩

theorem Alike.trans
    {walker middle after : LeafWalker} (left : Alike walker middle)
    (right : Alike middle after) : Alike walker after where
  size := right.size.trans left.size
  owner index := (right.owner index).trans (left.owner index)
  request index := (right.request index).trans (left.request index)
  held index := (right.held index).trans (left.held index)

theorem Alike.memoryWait_iff
    {walker after : LeafWalker} (alike : Alike walker after) (index owner : Nat) :
    (after.entry index).state = .memoryWait owner ↔
      (walker.entry index).state = .memoryWait owner := by
  rw [← LeafEntry.memoryOwner_eq_some, ← LeafEntry.memoryOwner_eq_some, alike.owner]

theorem Alike.linked
    {walker after : LeafWalker} (alike : Alike walker after) (linked : walker.Linked) :
    after.Linked := by
  intro index owner waits
  obtain ⟨ownerWaits, shares⟩ := linked index owner ((alike.memoryWait_iff index owner).1 waits)
  refine ⟨(alike.memoryWait_iff owner owner).2 ownerWaits, ?_⟩
  rw [alike.request, alike.request]
  exact shares

theorem Alike.awaitsBlock
    {walker after : LeafWalker} (alike : Alike walker after) (id : Nat) :
    after.awaitsBlock id = walker.awaitsBlock id := by
  apply bool_eq_of_iff
  rw [awaitsBlock_iff, awaitsBlock_iff]
  exact alike.memoryWait_iff id id

theorem Alike.heldRequests
    {walker after : LeafWalker} (alike : Alike walker after) :
    after.heldRequests = walker.heldRequests := by
  simp only [LeafWalker.heldRequests, indices, alike.size, alike.held]

theorem Changed.alike
    {walker after : LeafWalker} {change : LeafEntry → LeafEntry}
    (changed : Changed walker after change)
    (owner : ∀ entry, (change entry).memoryOwner? = entry.memoryOwner?)
    (request : ∀ entry, (change entry).request = entry.request)
    (held : ∀ entry, (change entry).held? = entry.held?) : Alike walker after where
  size := changed.size
  owner index := by rw [changed.entry, owner]
  request index := by rw [changed.entry, request]
  held index := by rw [changed.entry, held]

theorem Replaced.alike
    {walker after : LeafWalker} {index : Nat} {entry : LeafEntry}
    (replaced : Replaced walker after index entry)
    (owner : entry.memoryOwner? = (walker.entry index).memoryOwner?)
    (request : entry.request = (walker.entry index).request)
    (held : entry.held? = (walker.entry index).held?) : Alike walker after := by
  have each (tested : Nat) :
      (tested = index ∧ after.entry tested = entry) ∨
        after.entry tested = walker.entry tested := by
    by_cases here : tested = index
    · exact Or.inl ⟨here, by rw [here, replaced.here]⟩
    · exact Or.inr (replaced.elsewhere tested here)
  refine ⟨replaced.size, ?_, ?_, ?_⟩
  all_goals
    intro tested
    rcases each tested with ⟨rfl, replacement⟩ | same
    · rw [replacement]
      assumption
    · rw [same]

/-! ## One entry changes its place -/

/-- The replaced entry waited for no read. Now it may wait for a read that another
entry of its sector waits for. -/
structure Reseated (walker after : LeafWalker) (index : Nat) (entry : LeafEntry) : Prop
    extends Replaced walker after index entry where
  unread : ∀ owner, (walker.entry index).state ≠ .memoryWait owner
  joins : ∀ owner, entry.state = .memoryWait owner →
    owner ≠ index ∧ (walker.entry owner).state = .memoryWait owner ∧
      entry.request.sharesSector (walker.entry owner).request = true

theorem Reseated.linked
    {walker after : LeafWalker} {index : Nat} {entry : LeafEntry}
    (reseated : Reseated walker after index entry) (linked : walker.Linked) :
    after.Linked := by
  intro tested owner waits
  by_cases here : tested = index
  · rw [here, reseated.here] at waits
    obtain ⟨different, ownerWaits, shares⟩ := reseated.joins owner waits
    rw [here, reseated.here, reseated.elsewhere owner different]
    exact ⟨ownerWaits, shares⟩
  · rw [reseated.elsewhere tested here] at waits ⊢
    obtain ⟨ownerWaits, shares⟩ := linked tested owner waits
    have different : owner ≠ index := by
      intro equal
      rw [equal] at ownerWaits
      exact reseated.unread index ownerWaits
    rw [reseated.elsewhere owner different]
    exact ⟨ownerWaits, shares⟩

theorem Reseated.awaitsBlock
    {walker after : LeafWalker} {index : Nat} {entry : LeafEntry}
    (reseated : Reseated walker after index entry) (id : Nat) :
    after.awaitsBlock id = walker.awaitsBlock id := by
  apply bool_eq_of_iff
  rw [awaitsBlock_iff, awaitsBlock_iff]
  by_cases here : id = index
  · constructor
    · intro waits
      rw [here, reseated.here] at waits
      exact absurd rfl (reseated.joins index waits).1
    · intro waits
      rw [here] at waits
      exact absurd waits (reseated.unread index)
  · rw [reseated.elsewhere id here]

theorem reseated_of_not_waiting
    {walker after : LeafWalker} {index : Nat} {entry : LeafEntry}
    (replaced : Replaced walker after index entry)
    (before : ∀ owner, (walker.entry index).state ≠ .memoryWait owner)
    (now : ∀ owner, entry.state ≠ .memoryWait owner) :
    Reseated walker after index entry :=
  { replaced with
    unread := before
    joins := fun owner waits => absurd waits (now owner) }

/-- An entry that was prepared and then placed waits only for a sibling's read. -/
theorem reseated_of_placed
    {params : Params} {walker prepared after : LeafWalker} {index : Nat}
    {first entry : LeafEntry} (linked : walker.Linked)
    (before : ∀ owner, (walker.entry index).state ≠ .memoryWait owner)
    (preparation : Replaced walker prepared index first)
    (ready : ∀ owner, first.state ≠ .memoryWait owner)
    (placed : Placed params prepared index entry)
    (replaced : Replaced walker after index entry) :
    Reseated walker after index entry := by
  have preparedLinked : prepared.Linked :=
    (reseated_of_not_waiting preparation before ready).linked linked
  refine { replaced with unread := before, joins := ?_ }
  intro owner waits
  obtain ⟨sibling, found, siblingWaits⟩ := placed.joins waits
  obtain ⟨ownerWaits, shares⟩ := preparedLinked sibling owner siblingWaits
  have different : owner ≠ index := by
    intro equal
    rw [equal, preparation.here] at ownerWaits
    exact ready index ownerWaits
  rw [preparation.elsewhere owner different] at ownerWaits shares
  refine ⟨different, ownerWaits, ?_⟩
  rw [placed.request]
  exact Request.sharesSector_trans (Request.sharesSector_symm found.shares) shares

theorem Reseated.orderly
    {walker after : LeafWalker} {index : Nat} {entry : LeafEntry}
    {ticket : Option (Nat × Word)} (reseated : Reseated walker after index entry)
    (orderly : walker.Orderly ticket) (before : (walker.entry index).awaitedPage? = none)
    (patient : entry.awaitedPage? = none) : after.Orderly ticket where
  linked := reseated.linked orderly.linked
  waits := by
    intro tested page waits
    by_cases here : tested = index
    · rw [here, reseated.here, patient] at waits
      cases waits
    · rw [reseated.elsewhere tested here] at waits
      exact orderly.waits tested page waits
  busy := reseated.busy.trans orderly.busy
  asked := by
    intro page asked
    have waits := orderly.asked page asked
    have other : page.1 ≠ index := by
      intro here
      rw [here, before] at waits
      cases waits
    rw [reseated.elsewhere page.1 other]
    exact waits

/-! ## Accepting a walk -/

private theorem accept_reseated
    (params : Params) (leaf : LeafRequest) {walker : LeafWalker}
    (linked : walker.Linked) (ready : walker.ready = true) :
    ∃ index entry, Reseated walker (accept params leaf walker).state index entry ∧
      entry.awaitedPage? = none ∧ (walker.entry index).state = .idle ∧
      (accept params leaf walker).discarded ++ entry.held?.toList = [leaf.request] := by
  obtain ⟨index, idle, _, ⟨replaced, discarded⟩ | ⟨entry, admitted, replaced, discarded⟩⟩ :=
    accept_cases params leaf ready
  · refine ⟨index, {}, ?_, rfl, idle, ?_⟩
    · exact reseated_of_not_waiting replaced (by rw [idle]; nofun) nofun
    · rw [discarded]
      rfl
  · have unread (owner : Nat) : (walker.entry index).state ≠ .memoryWait owner := by
      rw [idle]
      nofun
    refine ⟨index, entry, ?_, ?_, idle, ?_⟩
    · cases admitted with
      | table => exact reseated_of_not_waiting replaced unread nofun
      | placed placed =>
          exact reseated_of_placed linked unread (replaced_setEntry replaced.inside leaf.claim)
            nofun placed replaced
    · cases admitted with
      | table => rfl
      | placed placed => exact placed.awaitedPage
    · rw [discarded]
      cases admitted with
      | table => rfl
      | placed placed =>
          rw [LeafEntry.held_of_busy placed.busy, placed.request,
            entry_setEntry_self replaced.inside]
          rfl

theorem accept_running
    (params : Params) (leaf : LeafRequest) {walker : LeafWalker}
    (ready : walker.ready = true) : (accept params leaf walker).fault = none := by
  obtain ⟨_, _, running, _⟩ := accept_cases params leaf ready
  exact running

theorem accept_size
    (params : Params) (leaf : LeafRequest) {walker : LeafWalker}
    (ready : walker.ready = true) :
    (accept params leaf walker).state.entries.size = walker.entries.size := by
  obtain ⟨_, _, _, ⟨replaced, _⟩ | ⟨_, _, replaced, _⟩⟩ := accept_cases params leaf ready
  · exact replaced.size
  · exact replaced.size

theorem Linked.accept
    {walker : LeafWalker} (linked : walker.Linked) (params : Params) (leaf : LeafRequest)
    (ready : walker.ready = true) : (accept params leaf walker).state.Linked := by
  obtain ⟨_, _, reseated, _⟩ := accept_reseated params leaf linked ready
  exact reseated.linked linked

theorem Orderly.accept
    {walker : LeafWalker} {ticket : Option (Nat × Word)} (orderly : walker.Orderly ticket)
    (params : Params) (leaf : LeafRequest) (ready : walker.ready = true) :
    (accept params leaf walker).state.Orderly ticket := by
  obtain ⟨_, _, reseated, patient, idle, _⟩ :=
    accept_reseated params leaf orderly.linked ready
  exact reseated.orderly orderly (by simp [LeafEntry.awaitedPage?, idle]) patient

theorem accept_awaitsBlock
    (params : Params) (leaf : LeafRequest) {walker : LeafWalker}
    (linked : walker.Linked) (ready : walker.ready = true) (id : Nat) :
    (accept params leaf walker).state.awaitsBlock id = walker.awaitsBlock id := by
  obtain ⟨_, _, reseated, _⟩ := accept_reseated params leaf linked ready
  exact reseated.awaitsBlock id

/-- An accepted lookup is held afterwards, unless it is a prefetch that was dropped. -/
theorem accept_heldRequests
    (params : Params) (leaf : LeafRequest) {walker : LeafWalker}
    (linked : walker.Linked) (ready : walker.ready = true) :
    (leaf.request :: walker.heldRequests).Perm
      ((accept params leaf walker).discarded ++
        (accept params leaf walker).state.heldRequests) := by
  obtain ⟨index, entry, reseated, _, free, taken⟩ :=
    accept_reseated params leaf linked ready
  have perm := reseated.heldRequests
  rw [LeafEntry.held_of_idle free] at perm
  calc
    List.Perm (leaf.request :: walker.heldRequests)
        (((accept params leaf walker).discarded ++ entry.held?.toList) ++
          walker.heldRequests) := by rw [taken]; exact .rfl
    List.Perm _ ((accept params leaf walker).discarded ++
          (entry.held?.toList ++ walker.heldRequests)) := by rw [List.append_assoc]
    List.Perm _ ((accept params leaf walker).discarded ++
          (accept params leaf walker).state.heldRequests) := perm.symm.append_left _

/-! ## Memory -/

theorem joinRead_request (request : Request) (chosen : Nat) (entry : LeafEntry) :
    (joinRead request chosen entry).request = entry.request := by
  unfold joinRead
  split <;> rfl

theorem joinsRead_states
    {request : Request} {entry : LeafEntry} (joins : joinsRead request entry = true) :
    (entry.state = .memoryRequest ∨ entry.state = .addressCheck) ∧
      entry.request.sharesSector request = true := by
  simpa [joinsRead] using joins

private theorem joinRead_of_memoryWait
    {entry : LeafEntry} {owner : Nat} (waits : entry.state = .memoryWait owner)
    (request : Request) (chosen : Nat) : joinRead request chosen entry = entry := by
  unfold joinRead
  split
  · rename_i joins
    rcases (joinsRead_states joins).1 with state | state <;> rw [waits] at state <;> cases state
  · rfl

private theorem joinRead_held (request : Request) (chosen : Nat) (entry : LeafEntry) :
    (joinRead request chosen entry).held? = entry.held? := by
  unfold joinRead
  split
  · rename_i joins
    rcases (joinsRead_states joins).1 with state | state <;>
      simp [LeafEntry.held?, LeafEntry.isIdle, state]
  · rfl

private theorem joinRead_awaitedPage (request : Request) (chosen : Nat) (entry : LeafEntry) :
    (joinRead request chosen entry).awaitedPage? = entry.awaitedPage? := by
  unfold joinRead
  split
  · rename_i joins
    rcases (joinsRead_states joins).1 with state | state <;> simp [LeafEntry.awaitedPage?, state]
  · rfl

private theorem joinRead_chosen
    {entry : LeafEntry} (asks : entry.state = .memoryRequest) (chosen : Nat) :
    (joinRead entry.request chosen entry).state = .memoryWait chosen := by
  have joins : joinsRead entry.request entry = true := by
    simp [joinsRead, asks, Request.sharesSector_refl]
  simp [joinRead, joins]

theorem Linked.fireMemory
    {walker : LeafWalker} (linked : walker.Linked) (params : Params) {request : MemoryRequest}
    (wanted : walker.memoryRequest? = some request) :
    (fireMemory params walker).state.Linked := by
  obtain ⟨changed, _, _⟩ := fireMemory_spec params wanted
  obtain ⟨_, asks⟩ := memoryRequest_spec wanted
  intro index owner waits
  rw [changed.entry] at waits
  by_cases joins : joinsRead (walker.entry request.id).request (walker.entry index) = true
  · have ownerIs : owner = request.id := by
      simp only [joinRead, joins, if_true] at waits
      cases waits
      rfl
    rw [ownerIs, changed.entry, changed.entry, joinRead_request, joinRead_request]
    exact ⟨joinRead_chosen asks request.id, (joinsRead_states joins).2⟩
  · have unchanged :
        joinRead (walker.entry request.id).request request.id (walker.entry index) =
          walker.entry index := if_neg joins
    rw [unchanged] at waits
    obtain ⟨ownerWaits, shares⟩ := linked index owner waits
    rw [changed.entry, changed.entry, joinRead_request, joinRead_request,
      joinRead_of_memoryWait ownerWaits]
    exact ⟨ownerWaits, shares⟩

theorem Orderly.fireMemory
    {walker : LeafWalker} {ticket : Option (Nat × Word)} (orderly : walker.Orderly ticket)
    (params : Params) {request : MemoryRequest}
    (wanted : walker.memoryRequest? = some request) :
    (fireMemory params walker).state.Orderly ticket := by
  obtain ⟨changed, busy, _⟩ := fireMemory_spec params wanted
  refine ⟨orderly.linked.fireMemory params wanted, ?_, busy.trans orderly.busy, ?_⟩
  · intro index page waits
    rw [changed.entry, joinRead_awaitedPage] at waits
    exact orderly.waits index page waits
  · intro page asked
    rw [changed.entry, joinRead_awaitedPage]
    exact orderly.asked page asked

theorem fireMemory_awaitsBlock
    (params : Params) {walker : LeafWalker} {request : MemoryRequest}
    (wanted : walker.memoryRequest? = some request) (id : Nat) :
    (fireMemory params walker).state.awaitsBlock id =
      (walker.awaitsBlock id || id == request.id) := by
  obtain ⟨changed, _, _⟩ := fireMemory_spec params wanted
  obtain ⟨_, asks⟩ := memoryRequest_spec wanted
  apply bool_eq_of_iff
  rw [awaitsBlock_iff, changed.entry, Bool.or_eq_true, awaitsBlock_iff, beq_iff_eq]
  by_cases here : id = request.id
  · rw [here]
    exact ⟨fun _ => Or.inr rfl, fun _ => joinRead_chosen asks request.id⟩
  · by_cases joins : joinsRead (walker.entry request.id).request (walker.entry id) = true
    · have notWaiting : (walker.entry id).state ≠ .memoryWait id := by
        rcases (joinsRead_states joins).1 with state | state <;> rw [state] <;> nofun
      simp [joinRead, joins, here, notWaiting, Ne.symm here]
    · simp [joinRead, joins, here]

theorem fireMemory_heldRequests
    (params : Params) {walker : LeafWalker} {request : MemoryRequest}
    (wanted : walker.memoryRequest? = some request) :
    (fireMemory params walker).state.heldRequests = walker.heldRequests := by
  obtain ⟨changed, _, _⟩ := fireMemory_spec params wanted
  simp only [heldRequests, indices, changed.size, changed.entry, joinRead_held]

/-- An entry that wants a read has none on its way. -/
theorem awaitsBlock_of_memoryRequest
    {walker : LeafWalker} {request : MemoryRequest}
    (wanted : walker.memoryRequest? = some request) :
    walker.awaitsBlock request.id = false := by
  obtain ⟨_, asks⟩ := memoryRequest_spec wanted
  simp [awaitsBlock, asks]

private theorem takeRead_held
    (params : Params) (id : Nat) (block : Block) (entry : LeafEntry) :
    (takeRead params id block entry).held? = entry.held? := by
  unfold takeRead
  split
  · rename_i waits
    have busy : entry.state ≠ .idle := by
      rw [eq_of_beq waits]
      nofun
    rw [LeafEntry.held_of_busy busy, LeafEntry.held_of_busy (entry.withBlock_busy params block),
      LeafEntry.withBlock_request]
  · rfl

private theorem takeRead_request
    (params : Params) (id : Nat) (block : Block) (entry : LeafEntry) :
    (takeRead params id block entry).request = entry.request := by
  unfold takeRead
  split
  · exact LeafEntry.withBlock_request entry params block
  · rfl

private theorem takeRead_memoryWait
    (params : Params) (id owner : Nat) (block : Block) (entry : LeafEntry) :
    (takeRead params id block entry).state = .memoryWait owner ↔
      entry.state = .memoryWait owner ∧ owner ≠ id := by
  unfold takeRead
  split
  · rename_i waits
    have state := eq_of_beq waits
    rcases entry.withBlock_state params block with finished | finished <;>
      simp [finished, state, eq_comm]
  · rename_i notWaiting
    constructor
    · intro waits
      refine ⟨waits, ?_⟩
      intro equal
      exact notWaiting (by simp [waits, equal])
    · exact fun waits => waits.1

private theorem takeRead_awaitedPage
    (params : Params) (id : Nat) (block : Block) (entry : LeafEntry) :
    (takeRead params id block entry).awaitedPage? = entry.awaitedPage? := by
  unfold takeRead
  split
  · rename_i waits
    rw [LeafEntry.withBlock_awaitedPage, LeafEntry.awaitedPage_of_memoryWait (eq_of_beq waits)]
  · rfl

theorem Linked.takeBlock
    {walker : LeafWalker} (linked : walker.Linked) (params : Params) (block : Block) {id : Nat}
    (waits : walker.awaitsBlock id = true) :
    (takeBlock params id block walker).state.Linked := by
  obtain ⟨changed, _, _⟩ := takeBlock_spec params block ((awaitsBlock_iff _ _).1 waits)
  intro index owner stillWaits
  rw [changed.entry, takeRead_memoryWait] at stillWaits
  obtain ⟨ownerWaits, shares⟩ := linked index owner stillWaits.1
  rw [changed.entry, changed.entry, takeRead_memoryWait, takeRead_request, takeRead_request]
  exact ⟨⟨ownerWaits, stillWaits.2⟩, shares⟩

theorem Orderly.takeBlock
    {walker : LeafWalker} {ticket : Option (Nat × Word)} (orderly : walker.Orderly ticket)
    (params : Params) (block : Block) {id : Nat} (waits : walker.awaitsBlock id = true) :
    (takeBlock params id block walker).state.Orderly ticket := by
  obtain ⟨changed, busy, _⟩ := takeBlock_spec params block ((awaitsBlock_iff _ _).1 waits)
  refine ⟨orderly.linked.takeBlock params block waits, ?_, busy.trans orderly.busy, ?_⟩
  · intro index page pageWaits
    rw [changed.entry, takeRead_awaitedPage] at pageWaits
    exact orderly.waits index page pageWaits
  · intro page asked
    rw [changed.entry, takeRead_awaitedPage]
    exact orderly.asked page asked

theorem takeBlock_awaitsBlock
    (params : Params) (block : Block) {walker : LeafWalker} {id : Nat}
    (waits : walker.awaitsBlock id = true) (tested : Nat) :
    (takeBlock params id block walker).state.awaitsBlock tested =
      (walker.awaitsBlock tested && tested != id) := by
  obtain ⟨changed, _, _⟩ := takeBlock_spec params block ((awaitsBlock_iff _ _).1 waits)
  apply bool_eq_of_iff
  rw [awaitsBlock_iff, changed.entry, takeRead_memoryWait, Bool.and_eq_true, awaitsBlock_iff,
    bne_iff_ne]

theorem takeBlock_heldRequests
    (params : Params) (block : Block) {walker : LeafWalker} {id : Nat}
    (waits : walker.awaitsBlock id = true) :
    (takeBlock params id block walker).state.heldRequests = walker.heldRequests := by
  obtain ⟨changed, _, _⟩ := takeBlock_spec params block ((awaitsBlock_iff _ _).1 waits)
  simp only [heldRequests, indices, changed.size, changed.entry, takeRead_held]

/-! ## The second stage -/

private theorem joinTable_same (gvpn : Word) (chosen : Nat) (entry : LeafEntry) :
    (joinTable gvpn chosen entry).memoryOwner? = entry.memoryOwner? ∧
      (joinTable gvpn chosen entry).request = entry.request ∧
      (joinTable gvpn chosen entry).held? = entry.held? := by
  unfold joinTable
  split
  · rename_i joins
    simp only [Bool.and_eq_true, beq_iff_eq] at joins
    simp [LeafEntry.memoryOwner?, LeafEntry.held?, LeafEntry.isIdle, joins.1]
  · exact ⟨rfl, rfl, rfl⟩

private theorem joinLast_same (gvpn : Word) (chosen : Nat) (entry : LeafEntry) :
    (joinLast gvpn chosen entry).memoryOwner? = entry.memoryOwner? ∧
      (joinLast gvpn chosen entry).request = entry.request ∧
      (joinLast gvpn chosen entry).held? = entry.held? := by
  unfold joinLast
  split
  · rename_i joins
    simp only [Bool.and_eq_true, beq_iff_eq] at joins
    simp [LeafEntry.memoryOwner?, LeafEntry.held?, LeafEntry.isIdle, joins.1]
  · exact ⟨rfl, rfl, rfl⟩

private theorem joinTable_awaitedPage
    {gvpn : Word} {chosen : Nat} {entry : LeafEntry} {page : Nat × Word}
    (waits : (joinTable gvpn chosen entry).awaitedPage? = some page) :
    page = (chosen, gvpn) ∨ entry.awaitedPage? = some page := by
  unfold joinTable at waits
  split at waits
  · rename_i joins
    simp only [Bool.and_eq_true, beq_iff_eq] at joins
    simp only [LeafEntry.awaitedPage?, joins.2, Option.some.injEq] at waits
    exact Or.inl waits.symm
  · exact Or.inr waits

private theorem joinLast_awaitedPage
    {gvpn : Word} {chosen : Nat} {entry : LeafEntry} {page : Nat × Word}
    (waits : (joinLast gvpn chosen entry).awaitedPage? = some page) :
    page = (chosen, gvpn) ∨ entry.awaitedPage? = some page := by
  unfold joinLast at waits
  split at waits
  · rename_i joins
    simp only [Bool.and_eq_true, beq_iff_eq] at joins
    simp only [LeafEntry.awaitedPage?, joins.2, Option.some.injEq] at waits
    exact Or.inl waits.symm
  · exact Or.inr waits

theorem fireStageTwo_alike
    (params : Params) {walker : LeafWalker} {request : StageTwoRequest}
    (wants : walker.wantsStageTwo = true) (chosen : walker.stageTwoRequest? = some request) :
    Alike walker (fireStageTwo params walker).state := by
  obtain ⟨_, _, _, _, _, ⟨changed, _⟩ | ⟨changed, _⟩⟩ := fireStageTwo_cases params wants chosen
  · exact changed.alike (fun entry => (joinTable_same _ _ entry).1)
      (fun entry => (joinTable_same _ _ entry).2.1) (fun entry => (joinTable_same _ _ entry).2.2)
  · exact changed.alike (fun entry => (joinLast_same _ _ entry).1)
      (fun entry => (joinLast_same _ _ entry).2.1) (fun entry => (joinLast_same _ _ entry).2.2)

/-- While the walker wants a guest page, no other one is on its way. -/
theorem Orderly.ticket_of_wantsStageTwo
    {walker : LeafWalker} {ticket : Option (Nat × Word)} (orderly : walker.Orderly ticket)
    (wants : walker.wantsStageTwo = true) : ticket = none := by
  have free : walker.stageTwoBusy = false := by
    simp only [wantsStageTwo, Bool.and_eq_true, Bool.not_eq_true'] at wants
    exact wants.1
  rw [orderly.busy] at free
  simpa using free

theorem Orderly.fireStageTwo
    {walker : LeafWalker} {ticket : Option (Nat × Word)} (orderly : walker.Orderly ticket)
    (params : Params) {request : StageTwoRequest} (wants : walker.wantsStageTwo = true)
    (chosen : walker.stageTwoRequest? = some request) :
    (fireStageTwo params walker).state.Orderly (some (request.id, request.gvpn)) := by
  have alike := fireStageTwo_alike params wants chosen
  obtain ⟨_, _, _, _, busy, changes⟩ := fireStageTwo_cases params wants chosen
  have patient (index : Nat) (page : Nat × Word) :
      (walker.entry index).awaitedPage? ≠ some page := by
    intro waits
    have asked := orderly.waits index page waits
    rw [orderly.ticket_of_wantsStageTwo wants] at asked
    cases asked
  refine ⟨alike.linked orderly.linked, ?_, busy, ?_⟩
  · intro index page waits
    rcases changes with ⟨changed, _⟩ | ⟨changed, _⟩
    · rw [changed.entry] at waits
      rcases joinTable_awaitedPage waits with equal | before
      · rw [equal]
      · exact absurd before (patient index page)
    · rw [changed.entry] at waits
      rcases joinLast_awaitedPage waits with equal | before
      · rw [equal]
      · exact absurd before (patient index page)
  · intro page asked
    cases asked
    rcases changes with ⟨changed, state, table⟩ | ⟨changed, state, last⟩
    · rw [changed.entry]
      simp [joinTable, state, table, LeafEntry.awaitedPage?]
    · rw [changed.entry]
      simp [joinLast, state, last, LeafEntry.awaitedPage?]

private theorem Delivered.awaitedPage
    {params : Params} {id : Nat} {result : StageTwoResult} {walker : LeafWalker} {index : Nat}
    {entry : LeafEntry} (delivered : Delivered params id result walker index entry) :
    entry.awaitedPage? = none := by
  cases delivered with
  | unmapped | last => rfl
  | table _ _ placed => exact placed.awaitedPage

private theorem Delivered.held
    {params : Params} {id : Nat} {result : StageTwoResult} {walker : LeafWalker} {index : Nat}
    {entry : LeafEntry} (inside : index < walker.entries.size)
    (delivered : Delivered params id result walker index entry) :
    entry.held? = (walker.entry index).held? := by
  cases delivered with
  | unmapped waits | last waits => simp [LeafEntry.held?, LeafEntry.isIdle, waits]
  | table waits _ placed =>
      rw [LeafEntry.held_of_busy placed.busy, placed.request, entry_setEntry_self inside,
        LeafEntry.held_of_busy (by rw [waits]; exact LeafState.noConfusion)]

private theorem Delivered.reseated
    {params : Params} {id : Nat} {result : StageTwoResult} {walker after : LeafWalker}
    {index : Nat} {entry : LeafEntry} (linked : walker.Linked)
    (delivered : Delivered params id result walker index entry)
    (replaced : Replaced walker after index entry) :
    Reseated walker after index entry := by
  cases delivered with
  | unmapped waits => exact reseated_of_not_waiting replaced (by rw [waits]; nofun) nofun
  | last waits => exact reseated_of_not_waiting replaced (by rw [waits]; nofun) nofun
  | table waits _ placed =>
      exact reseated_of_placed linked (by rw [waits]; nofun)
        (replaced_setEntry replaced.inside _) (by nofun) placed replaced

/-- The walker on the way through the delivery of a translation. -/
structure Delivering (walker current : LeafWalker) : Prop where
  linked : current.Linked
  size : current.entries.size = walker.entries.size
  awaits : ∀ id, current.awaitsBlock id = walker.awaitsBlock id
  held : ∀ index, (current.entry index).held? = (walker.entry index).held?
  waits : ∀ index page, (current.entry index).awaitedPage? = some page →
    (walker.entry index).awaitedPage? = some page
  busy : current.stageTwoBusy = false

theorem Delivering.deliver
    {params : Params} {id : Nat} {result : StageTwoResult} {walker current : LeafWalker}
    {index : Nat} (delivering : Delivering walker current)
    (inside : index < walker.entries.size) :
    Delivering walker (deliverStageTwo params id result index current).state := by
  have insideCurrent : index < current.entries.size := by
    rw [delivering.size]
    exact inside
  obtain ⟨_, ⟨same, _⟩ | ⟨entry, delivered, replaced⟩⟩ :=
    deliverStageTwo_cases params id result insideCurrent
  · rw [same]
    exact delivering
  · have reseated := delivered.reseated delivering.linked replaced
    refine ⟨reseated.linked delivering.linked, replaced.size.trans delivering.size, ?_, ?_, ?_,
      replaced.busy.trans delivering.busy⟩
    · intro tested
      rw [reseated.awaitsBlock, delivering.awaits]
    · intro tested
      rw [← delivering.held]
      by_cases here : tested = index
      · rw [here, replaced.here, delivered.held insideCurrent]
      · rw [replaced.elsewhere tested here]
    · intro tested page waits
      by_cases here : tested = index
      · rw [here, replaced.here, delivered.awaitedPage] at waits
        cases waits
      · rw [replaced.elsewhere tested here] at waits
        exact delivering.waits tested page waits

theorem delivering_of_linked {walker : LeafWalker} (linked : walker.Linked) :
    Delivering walker { walker with stageTwoBusy := false } :=
  ⟨linked, rfl, fun _ => rfl, fun _ => rfl, fun _ _ waits => waits, rfl⟩

theorem takeStageTwo_of_busy
    (params : Params) (id : Nat) (result : StageTwoResult) {walker : LeafWalker}
    (busy : walker.stageTwoBusy = true) :
    takeStageTwo params id result walker =
      Outcome.forEach (deliverStageTwo params id result) walker.indices
        { walker with stageTwoBusy := false } := by
  simp only [takeStageTwo, busy, Bool.not_true, Bool.false_eq_true, if_false]

/-- What is kept while a translation goes from entry to entry holds after its delivery. -/
theorem takeStageTwo_induction
    (params : Params) {id : Nat} {result : StageTwoResult} (holds : LeafWalker → Prop)
    {walker : LeafWalker} (linked : walker.Linked) (busy : walker.stageTwoBusy = true)
    (step : ∀ {index current after entry}, Delivering walker current → holds current →
      Delivered params id result current index entry → Replaced current after index entry →
        holds after)
    (start : holds { walker with stageTwoBusy := false }) :
    holds (takeStageTwo params id result walker).state := by
  have next (index : Nat) (member : index ∈ walker.indices) (current : LeafWalker)
      (before : Delivering walker current ∧ holds current) :
      Delivering walker (deliverStageTwo params id result index current).state ∧
        holds (deliverStageTwo params id result index current).state := by
    obtain ⟨delivering, here⟩ := before
    have inside : index < walker.entries.size := List.mem_range.1 member
    refine ⟨delivering.deliver inside, ?_⟩
    rw [← delivering.size] at inside
    obtain ⟨_, ⟨same, _⟩ | ⟨entry, delivered, replaced⟩⟩ :=
      deliverStageTwo_cases params id result inside
    · rw [same]
      exact here
    · exact step delivering here delivered replaced
  rw [takeStageTwo_of_busy params id result busy]
  exact (Outcome.forEach_state_induction next ⟨delivering_of_linked linked, start⟩).2

theorem deliverStageTwo_elsewhere
    (params : Params) (id : Nat) (result : StageTwoResult) {index other : Nat}
    {walker : LeafWalker} (inside : index < walker.entries.size) (different : other ≠ index) :
    (deliverStageTwo params id result index walker).state.entry other = walker.entry other := by
  obtain ⟨_, ⟨same, _⟩ | ⟨entry, _, replaced⟩⟩ := deliverStageTwo_cases params id result inside
  · rw [same]
  · exact replaced.elsewhere other different

private theorem deliverStageTwo_quiet
    (params : Params) (id : Nat) (result : StageTwoResult) {index : Nat}
    {walker : LeafWalker} (inside : index < walker.entries.size) {page : Nat × Word}
    (waits :
      ((deliverStageTwo params id result index walker).state.entry index).awaitedPage? =
        some page) :
    page.1 ≠ id := by
  obtain ⟨_, ⟨same, notTable, notLast⟩ | ⟨entry, delivered, replaced⟩⟩ :=
    deliverStageTwo_cases params id result inside
  · rw [same] at waits
    intro equal
    unfold LeafEntry.awaitedPage? at waits
    split at waits
    · rename_i owner state
      cases waits
      exact notTable (by rw [state, ← equal])
    · rename_i owner state
      cases waits
      exact notLast (by rw [state, ← equal])
    · cases waits
  · rw [replaced.here, delivered.awaitedPage] at waits
    cases waits

private theorem takeStageTwo_delivering
    (params : Params) (id : Nat) (result : StageTwoResult) {walker : LeafWalker}
    (linked : walker.Linked) (busy : walker.stageTwoBusy = true) :
    Delivering walker (takeStageTwo params id result walker).state ∧
      (takeStageTwo params id result walker).Uneventful ∧
      ∀ index page,
        ((takeStageTwo params id result walker).state.entry index).awaitedPage? = some page →
          page.1 ≠ id := by
  have start := delivering_of_linked linked
  have insideOf (index : Nat) (member : index ∈ walker.indices) :
      index < walker.entries.size := List.mem_range.1 member
  rw [takeStageTwo_of_busy params id result busy]
  have each (index : Nat) (member : index ∈ walker.indices) (current : LeafWalker)
      (delivering : Delivering walker current) :
      (deliverStageTwo params id result index current).Uneventful :=
    (deliverStageTwo_cases params id result
      (by rw [delivering.size]; exact insideOf index member)).1
  have step (index : Nat) (member : index ∈ walker.indices) (current : LeafWalker)
      (delivering : Delivering walker current) :
      Delivering walker (deliverStageTwo params id result index current).state :=
    delivering.deliver (insideOf index member)
  have done := Outcome.forEach_state_induction step start
  refine ⟨done, Outcome.forEach_uneventful each step start, ?_⟩
  intro index page waits
  by_cases inside : index < walker.entries.size
  · let quietAt (index : Nat) (current : LeafWalker) : Prop :=
      ∀ page, (current.entry index).awaitedPage? = some page → page.1 ≠ id
    have reached : quietAt index _ :=
      Outcome.forEach_reaches each step ?_ ?_ start index (List.mem_range.2 inside)
    · exact reached page waits
    · intro index member current delivering page waits
      exact deliverStageTwo_quiet params id result
        (by rw [delivering.size]; exact insideOf index member) waits
    · intro index member other current delivering quiet page waits
      have insideCurrent : index < current.entries.size := by
        rw [delivering.size]
        exact insideOf index member
      by_cases here : other = index
      · rw [here] at waits
        exact deliverStageTwo_quiet params id result insideCurrent waits
      · rw [deliverStageTwo_elsewhere params id result insideCurrent here] at waits
        exact quiet page waits
  · rw [entry_of_size_le (by rw [done.size]; exact Nat.not_lt.1 inside)] at waits
    cases waits

theorem Linked.takeStageTwo
    {walker : LeafWalker} (linked : walker.Linked) (params : Params) (id : Nat)
    (result : StageTwoResult) (busy : walker.stageTwoBusy = true) :
    (takeStageTwo params id result walker).state.Linked :=
  (takeStageTwo_delivering params id result linked busy).1.linked

theorem takeStageTwo_uneventful
    (params : Params) (id : Nat) (result : StageTwoResult) {walker : LeafWalker}
    (linked : walker.Linked) (busy : walker.stageTwoBusy = true) :
    (takeStageTwo params id result walker).Uneventful :=
  (takeStageTwo_delivering params id result linked busy).2.1

/-- Once its translation has come, nobody waits for a guest page any more. -/
theorem Orderly.takeStageTwo
    {walker : LeafWalker} {id : Nat} {gvpn : Word} (orderly : walker.Orderly (some (id, gvpn)))
    (params : Params) (result : StageTwoResult) :
    (takeStageTwo params id result walker).state.Orderly none := by
  obtain ⟨delivering, _, quiet⟩ :=
    takeStageTwo_delivering params id result orderly.linked orderly.busy
  refine ⟨delivering.linked, ?_, delivering.busy, nofun⟩
  intro index page waits
  have asked := orderly.waits index page (delivering.waits index page waits)
  cases asked
  exact absurd rfl (quiet index _ waits)

theorem takeStageTwo_size
    (params : Params) (id : Nat) (result : StageTwoResult) {walker : LeafWalker}
    (linked : walker.Linked) (busy : walker.stageTwoBusy = true) :
    (takeStageTwo params id result walker).state.entries.size = walker.entries.size :=
  (takeStageTwo_delivering params id result linked busy).1.size

theorem takeStageTwo_awaitsBlock
    (params : Params) (id : Nat) (result : StageTwoResult) {walker : LeafWalker}
    (linked : walker.Linked) (busy : walker.stageTwoBusy = true) (tested : Nat) :
    (takeStageTwo params id result walker).state.awaitsBlock tested =
      walker.awaitsBlock tested :=
  (takeStageTwo_delivering params id result linked busy).1.awaits tested

theorem takeStageTwo_heldRequests
    (params : Params) (id : Nat) (result : StageTwoResult) {walker : LeafWalker}
    (linked : walker.Linked) (busy : walker.stageTwoBusy = true) :
    (takeStageTwo params id result walker).state.heldRequests = walker.heldRequests := by
  obtain ⟨delivering, _, _⟩ := takeStageTwo_delivering params id result linked busy
  simp only [heldRequests, indices, delivering.size, delivering.held]

/-! ## Finished entries, steps and flushes -/

theorem takeFinished_reseated
    (params : Params) {walker : LeafWalker} {index : Nat}
    (found : walker.finishedIndex? = some index) :
    Reseated walker (takeFinished params walker).state index {} := by
  have finished := (finished_spec found).2
  exact reseated_of_not_waiting (takeFinished_spec params found).1 (by rw [finished]; nofun)
    nofun

theorem Orderly.takeFinished
    {walker : LeafWalker} {ticket : Option (Nat × Word)} (orderly : walker.Orderly ticket)
    (params : Params) {index : Nat} (found : walker.finishedIndex? = some index) :
    (takeFinished params walker).state.Orderly ticket := by
  have finished := (finished_spec found).2
  exact (takeFinished_reseated params found).orderly orderly
    (by simp [LeafEntry.awaitedPage?, finished]) rfl

theorem takeFinished_awaitsBlock
    (params : Params) {walker : LeafWalker} {index : Nat}
    (found : walker.finishedIndex? = some index) (id : Nat) :
    (takeFinished params walker).state.awaitsBlock id = walker.awaitsBlock id :=
  (takeFinished_reseated params found).awaitsBlock id

theorem takeFinished_heldRequests
    (params : Params) {walker : LeafWalker} {index : Nat}
    (found : walker.finishedIndex? = some index) :
    ((walker.entry index).request :: (takeFinished params walker).state.heldRequests).Perm
      walker.heldRequests := by
  have finished := (finished_spec found).2
  have perm := (takeFinished_spec params found).1.heldRequests
  rw [LeafEntry.held_of_busy (by rw [finished]; nofun)] at perm
  exact perm

private theorem Ticked.same
    {protection : Protection} {entry after : LeafEntry}
    (ticked : Ticked protection entry after) :
    after.memoryOwner? = entry.memoryOwner? ∧ after.request = entry.request ∧
      after.held? = entry.held? ∧ after.awaitedPage? = entry.awaitedPage? := by
  cases ticked with
  | denied _ due | passed _ due =>
      simp [LeafEntry.memoryOwner?, LeafEntry.held?, LeafEntry.isIdle, LeafEntry.awaitedPage?,
        due]
  | unchecked => exact ⟨rfl, rfl, rfl, rfl⟩

/-- The walker on the way through a step. -/
private structure Ticking (walker current : LeafWalker) : Prop where
  alike : Alike walker current
  patient : ∀ index, (current.entry index).awaitedPage? = (walker.entry index).awaitedPage?
  busy : current.stageTwoBusy = walker.stageTwoBusy

private theorem tick_ticking
    (params : Params) (protection : Protection) (walker : LeafWalker) :
    Ticking walker (tick params protection walker).state ∧
      (tick params protection walker).Uneventful := by
  have start : Ticking walker walker := ⟨Alike.refl walker, fun _ => rfl, rfl⟩
  refine tick_induction params (Ticking walker) ?_ ?_ start
  · intro index current after entry ticking ticked replaced
    obtain ⟨owner, request, held, patient⟩ := ticked.same
    refine ⟨ticking.alike.trans (replaced.alike owner request held), ?_,
      replaced.busy.trans ticking.busy⟩
    intro tested
    rw [← ticking.patient]
    by_cases here : tested = index
    · rw [here, replaced.here, patient]
    · rw [replaced.elsewhere tested here]
  · intro current ticking cycle
    obtain ⟨alike, patient, busy⟩ := ticking
    exact ⟨⟨alike.size, alike.owner, alike.request, alike.held⟩, patient, busy⟩

theorem tick_uneventful
    (params : Params) (protection : Protection) (walker : LeafWalker) :
    (tick params protection walker).Uneventful :=
  (tick_ticking params protection walker).2

theorem tick_alike
    (params : Params) (protection : Protection) (walker : LeafWalker) :
    Alike walker (tick params protection walker).state :=
  (tick_ticking params protection walker).1.alike

theorem Orderly.tick
    {walker : LeafWalker} {ticket : Option (Nat × Word)} (orderly : walker.Orderly ticket)
    (params : Params) (protection : Protection) :
    (tick params protection walker).state.Orderly ticket := by
  obtain ⟨⟨alike, patient, busy⟩, _⟩ := tick_ticking params protection walker
  refine ⟨alike.linked orderly.linked, ?_, busy.trans orderly.busy, ?_⟩
  · intro index page waits
    rw [patient] at waits
    exact orderly.waits index page waits
  · intro page asked
    rw [patient]
    exact orderly.asked page asked

theorem orderly_of_idle
    {walker : LeafWalker} (idle : ∀ index, walker.entry index = {})
    (free : walker.stageTwoBusy = false) : walker.Orderly none where
  linked := by
    intro index owner waits
    rw [idle] at waits
    cases waits
  waits := by
    intro index page waits
    rw [idle] at waits
    cases waits
  busy := free
  asked := nofun

theorem awaitsBlock_of_idle
    {walker : LeafWalker} (idle : ∀ index, walker.entry index = {}) (id : Nat) :
    walker.awaitsBlock id = false := by
  rw [awaitsBlock, idle]
  rfl

theorem heldRequests_of_idle
    {walker : LeafWalker} (idle : ∀ index, walker.entry index = {}) :
    walker.heldRequests = [] := by
  unfold heldRequests
  rw [List.filterMap_eq_nil_iff]
  intro index _
  rw [idle]
  rfl

/-! ## Reads that go on -/

/-- Whoever waits for a read has waited for it before, for the same lookup. -/
def WaitsKept (walker after : LeafWalker) : Prop :=
  ∀ id, after.awaitsBlock id = true →
    walker.awaitsBlock id = true ∧ (after.entry id).request = (walker.entry id).request

theorem WaitsKept.refl (walker : LeafWalker) : WaitsKept walker walker :=
  fun _ waits => ⟨waits, rfl⟩

/-- Entries that hold the same lookups wait for them. -/
private theorem waitsKept_of_held
    {walker after : LeafWalker}
    (awaits : ∀ id, after.awaitsBlock id = true → walker.awaitsBlock id = true)
    (held : ∀ index, (after.entry index).held? = (walker.entry index).held?) :
    WaitsKept walker after := by
  intro id waits
  have before := awaits id waits
  refine ⟨before, ?_⟩
  rw [awaitsBlock_iff] at waits before
  have same := held id
  rw [LeafEntry.held_of_busy (by rw [waits]; exact LeafState.noConfusion),
    LeafEntry.held_of_busy (by rw [before]; exact LeafState.noConfusion)] at same
  exact Option.some.inj same

theorem Alike.waitsKept {walker after : LeafWalker} (alike : Alike walker after) :
    WaitsKept walker after :=
  waitsKept_of_held (fun id waits => by rwa [alike.awaitsBlock] at waits) alike.held

theorem Reseated.waitsKept
    {walker after : LeafWalker} {index : Nat} {entry : LeafEntry}
    (reseated : Reseated walker after index entry) : WaitsKept walker after := by
  intro id waits
  rw [reseated.awaitsBlock] at waits
  refine ⟨waits, ?_⟩
  have other : id ≠ index := by
    intro here
    rw [awaitsBlock_iff, here] at waits
    exact reseated.unread index waits
  rw [reseated.elsewhere id other]

theorem accept_waitsKept
    (params : Params) (leaf : LeafRequest) {walker : LeafWalker} (linked : walker.Linked)
    (ready : walker.ready = true) : WaitsKept walker (accept params leaf walker).state := by
  obtain ⟨index, entry, reseated, _⟩ := accept_reseated params leaf linked ready
  exact reseated.waitsKept

/-- Besides the reads that go on there is only the one that was sent. -/
theorem fireMemory_waits
    (params : Params) {walker : LeafWalker} {request : MemoryRequest}
    (wanted : walker.memoryRequest? = some request) {id : Nat}
    (waits : (fireMemory params walker).state.awaitsBlock id = true) :
    (walker.awaitsBlock id = true ∨ id = request.id) ∧
      ((fireMemory params walker).state.entry id).request = (walker.entry id).request := by
  rw [fireMemory_awaitsBlock params wanted, Bool.or_eq_true, beq_iff_eq] at waits
  rw [(fireMemory_spec params wanted).1.entry, joinRead_request]
  exact ⟨waits, rfl⟩

theorem takeBlock_waitsKept
    (params : Params) (block : Block) {walker : LeafWalker} {id : Nat}
    (waits : walker.awaitsBlock id = true) :
    WaitsKept walker (takeBlock params id block walker).state := by
  refine waitsKept_of_held ?_ ?_
  · intro tested after
    rw [takeBlock_awaitsBlock params block waits, Bool.and_eq_true] at after
    exact after.1
  · intro index
    rw [awaitsBlock_iff] at waits
    rw [(takeBlock_spec params block waits).1.entry, takeRead_held]

theorem takeStageTwo_waitsKept
    (params : Params) (id : Nat) (result : StageTwoResult) {walker : LeafWalker}
    (linked : walker.Linked) (busy : walker.stageTwoBusy = true) :
    WaitsKept walker (takeStageTwo params id result walker).state := by
  obtain ⟨delivering, _, _⟩ := takeStageTwo_delivering params id result linked busy
  refine waitsKept_of_held (fun tested waits => ?_) delivering.held
  rwa [delivering.awaits] at waits

theorem takeFinished_waitsKept
    (params : Params) {walker : LeafWalker} {index : Nat}
    (found : walker.finishedIndex? = some index) :
    WaitsKept walker (takeFinished params walker).state :=
  (takeFinished_reseated params found).waitsKept

end PageWalk.LeafWalker
