import Mathlib.Data.List.Nodup
import Mathlib.Data.List.Perm.Basic
import PageWalk.Proofs.LeafWalker.Links

/-!
# What comes of every walk

Every walk that the leaf walker takes in comes to one of four things: its entry sends the
read of its sector, it shares the read of another entry, protection denies its read, or its
table page has no translation. An observer who sees the entries before and after an operation
writes down which walks began and what came of walks.
-/

namespace PageWalk

/-- What has come of a walk. -/
inductive Role
  /-- Its entry has sent the read of the sector. -/
  | owner
  /-- It shares the read of another entry. -/
  | sharer
  /-- Protection has denied the read. -/
  | denied
  /-- Its table page has no translation. -/
  | unmapped
deriving DecidableEq, Repr

/-- A line of the observer: a walk and what has come of it. -/
structure Posting where
  request : Request
  role : Role
deriving DecidableEq, Repr

namespace LeafEntry

/-! ## One entry -/

/-- A walk has begun, and nothing has come of it yet. -/
def isOpen (entry : LeafEntry) : Bool :=
  match entry.state with
  | .tableRequest | .tableWait _ | .addressCheck | .memoryRequest => true
  | .idle | .memoryWait _ | .finished | .lastRequest | .lastWait _ => false

def openRequest? (entry : LeafEntry) : Option Request :=
  if entry.isOpen then some entry.request else none

/-- What has come of the walk of the entry at an index, if this has only just happened: a
block that the entry did not wait for comes from another one. -/
def role? (index : Nat) (entry : LeafEntry) : Option Role :=
  match entry.state with
  | .memoryWait owner => some (if owner = index then .owner else .sharer)
  | .finished | .lastRequest | .lastWait _ =>
      if entry.block.isSome then some .sharer
      else if entry.denied then some .denied
      else if entry.stageTwo.any (·.fault) then some .unmapped
      else none
  | .idle | .tableRequest | .tableWait _ | .addressCheck | .memoryRequest => none

/-- The walk that began between two looks at an entry. -/
def begun? (before after : LeafEntry) : Option Request :=
  if before.isIdle then after.held? else none

/-- What came of a walk between two looks at its entry. -/
def posting? (index : Nat) (before after : LeafEntry) : Option Posting :=
  if before.isIdle || before.isOpen then
    (after.role? index).map fun role => ⟨after.request, role⟩
  else
    none

/-- An open walk has neither a block nor a verdict. -/
def Fresh (entry : LeafEntry) : Prop :=
  entry.isOpen = true → entry.block = none ∧ entry.denied = false

/-- What can happen to an entry between two looks: the walk that began, and what came of
it. -/
inductive Look (index : Nat) (before after : LeafEntry) : Option Request → Option Posting → Prop
  | unused (idle : before.isIdle = true) (stays : after.isIdle = true) :
      Look index before after none none
  | began (idle : before.isIdle = true) (opened : after.isOpen = true) (fresh : after.Fresh) :
      Look index before after (some after.request) none
  /-- Something came of the walk at once. -/
  | decided {role : Role} (idle : before.isIdle = true)
      (here : after.role? index = some role) :
      Look index before after (some after.request) (some ⟨after.request, role⟩)
  | stays (opened : before.isOpen = true) (stays : after.isOpen = true)
      (same : after.request = before.request) (fresh : after.Fresh) :
      Look index before after none none
  | settled {role : Role} (opened : before.isOpen = true)
      (here : after.role? index = some role) (same : after.request = before.request) :
      Look index before after none (some ⟨after.request, role⟩)
  /-- Something had come of the walk before. -/
  | closed (busy : before.isIdle = false) (closed : before.isOpen = false)
      (stays : after.isOpen = false) : Look index before after none none

section Looks

variable {index : Nat} {before after : LeafEntry}

theorem not_idle_of_open (opened : after.isOpen = true) : after.isIdle = false := by
  unfold isOpen at opened
  unfold isIdle
  split at opened <;> simp_all

theorem not_open_of_idle (idle : after.isIdle = true) : after.isOpen = false := by
  rw [isIdle_iff] at idle
  simp [isOpen, idle]

theorem role_of_open (opened : after.isOpen = true) : after.role? index = none := by
  unfold isOpen at opened
  unfold role?
  split at opened <;> simp_all

theorem role_of_idle (idle : after.isIdle = true) : after.role? index = none := by
  rw [isIdle_iff] at idle
  simp [role?, idle]

theorem not_open_of_role {role : Role} (here : after.role? index = some role) :
    after.isOpen = false := by
  rw [Bool.eq_false_iff]
  intro opened
  rw [role_of_open opened] at here
  cases here

theorem not_idle_of_role {role : Role} (here : after.role? index = some role) :
    after.isIdle = false := by
  rw [Bool.eq_false_iff]
  intro idle
  rw [role_of_idle idle] at here
  cases here

/-- A walk with a block that it did not wait for shares the read of another one. -/
theorem role_withBlock (index : Nat) (entry : LeafEntry) (params : Params) (block : Block) :
    (entry.withBlock params block).role? index = some .sharer := by
  have has : (entry.withBlock params block).block = some block := by
    unfold withBlock
    dsimp only
    split <;> rfl
  unfold role?
  rcases entry.withBlock_state params block with state | state <;> simp [state, has]

/-- The observer writes down what has happened, and no walk gets lost. -/
theorem Look.spec
    {began : Option Request} {came : Option Posting} (look : Look index before after began came) :
    begun? before after = began ∧ posting? index before after = came ∧
      began.toList ++ before.openRequest?.toList =
        came.toList.map (·.request) ++ after.openRequest?.toList := by
  unfold begun? posting? openRequest?
  cases look with
  | unused idle stays =>
      simp [idle, held?, stays, role_of_idle stays, not_open_of_idle idle, not_open_of_idle stays]
  | began idle opened =>
      simp [idle, held?, opened, not_idle_of_open opened, role_of_open opened,
        not_open_of_idle idle]
  | decided idle here =>
      simp [idle, held?, here, not_idle_of_role here, not_open_of_role here,
        not_open_of_idle idle]
  | stays opened stays same =>
      simp [opened, stays, same, not_idle_of_open opened, role_of_open stays]
  | settled opened here same =>
      simp [opened, here, same, not_idle_of_open opened, not_open_of_role here]
  | closed busy closed stays => simp [busy, closed, stays]

theorem Look.fresh
    {began : Option Request} {came : Option Posting} (look : Look index before after began came) :
    after.Fresh := by
  have of_closed (closed : after.isOpen = false) : after.Fresh := by
    intro opened
    rw [closed] at opened
    cases opened
  cases look with
  | began _ _ fresh | stays _ _ _ fresh => exact fresh
  | unused _ stays => exact of_closed (not_open_of_idle stays)
  | decided _ here | settled _ here => exact of_closed (not_open_of_role here)
  | closed _ _ stays => exact of_closed stays

/-- The watchdog is nothing to the observer. -/
theorem Fresh.look_watchdog
    {entry : LeafEntry} (fresh : entry.Fresh) (index : Nat) (watchdog : Watchdog) :
    Look index entry { entry with watchdog := watchdog } none none := by
  cases idle : entry.isIdle with
  | true => exact .unused idle idle
  | false =>
      cases opened : entry.isOpen with
      | true => exact .stays opened opened rfl fresh
      | false => exact .closed idle opened opened

theorem Fresh.look {entry : LeafEntry} (fresh : entry.Fresh) (index : Nat) :
    Look index entry entry none none :=
  fresh.look_watchdog index entry.watchdog

end Looks

end LeafEntry

namespace LeafWalker

/-! ## Counters -/

def tally (role : Role) (postings : List Posting) : Nat :=
  postings.countP (·.role == role)

/-- The counters go with the walks that began and with what came of walks. -/
structure Counted (walker after : LeafWalker) (began : List Request) (came : List Posting) :
    Prop where
  requests : after.requests = walker.requests + began.length
  owners : after.memoryRequests = walker.memoryRequests + tally .owner came
  sharers : after.sharedRequests = walker.sharedRequests + tally .sharer came
  denied : after.accessFaults = walker.accessFaults + tally .denied came

variable {walker middle current after : LeafWalker}

theorem Counted.refl (walker : LeafWalker) : Counted walker walker [] [] :=
  ⟨rfl, rfl, rfl, rfl⟩

theorem Counted.trans
    {began later : List Request} {came next : List Posting}
    (left : Counted walker middle began came) (right : Counted middle after later next) :
    Counted walker after (began ++ later) (came ++ next) := by
  constructor
  · rw [right.requests, left.requests, List.length_append, Nat.add_assoc]
  · rw [right.owners, left.owners, tally, tally, tally, List.countP_append, Nat.add_assoc]
  · rw [right.sharers, left.sharers, tally, tally, tally, List.countP_append, Nat.add_assoc]
  · rw [right.denied, left.denied, tally, tally, tally, List.countP_append, Nat.add_assoc]

theorem Counted.of_perm
    {began other : List Request} {came others : List Posting}
    (counted : Counted walker after began came) (beganPerm : began.Perm other)
    (camePerm : came.Perm others) : Counted walker after other others := by
  have same (role : Role) : tally role came = tally role others := camePerm.countP_eq _
  constructor
  · rw [counted.requests, beganPerm.length_eq]
  · rw [counted.owners, same]
  · rw [counted.sharers, same]
  · rw [counted.denied, same]

/-! ## One entry of the walker -/

/-- One entry was replaced, and the counters go with what happened to it. -/
structure Booked (walker after : LeafWalker) (index : Nat) (entry : LeafEntry) : Prop
    extends Replaced walker after index entry where
  counted : ∃ began came, LeafEntry.Look index (walker.entry index) entry began came ∧
    Counted walker after began.toList came.toList

/-- The walk stays open, with the block and the verdict that its entry had. -/
structure Postponed (entry after : LeafEntry) : Prop where
  opened : after.isOpen = true
  block : after.block = entry.block
  denied : after.denied = entry.denied

/-- An entry that is placed shares the read of a sibling, and is counted, or goes on by
itself. -/
theorem place_counted
    (params : Params) (linked : walker.Linked) {index : Nat}
    (inside : index < walker.entries.size)
    (due : (walker.entry index).state = .addressCheck) :
    ∃ entry, Replaced walker (place params index walker).state index entry ∧
      entry.request = (walker.entry index).request ∧
      (Postponed (walker.entry index) entry ∧
          Counted walker (place params index walker).state [] [] ∨
        entry.role? index = some .sharer ∧
          Counted walker (place params index walker).state [] [⟨entry.request, .sharer⟩]) := by
  unfold place
  dsimp only
  cases found : walker.sibling? index with
  | none =>
      exact ⟨_, replaced_setEntry inside _, rfl, .inl ⟨⟨rfl, rfl, rfl⟩, rfl, rfl, rfl, rfl⟩⟩
  | some sibling =>
      have spec := sibling_spec found
      cases holds : (walker.entry sibling).block with
      | some block =>
          simp only [entry] at holds
          simp only [entry, holds]
          refine ⟨_, (replaced_setEntry inside _).of_entries_eq rfl rfl,
            LeafEntry.withBlock_request _ params block, .inr ⟨?_, rfl, rfl, rfl, rfl⟩⟩
          exact LeafEntry.role_withBlock index _ params block
      | none =>
          have reads := spec.reads
          simp only [LeafEntry.hasRead, holds, Option.isSome_none, Bool.or_false] at reads
          obtain ⟨owner, waits⟩ := Option.isSome_iff_exists.1 reads
          have ownerWaits := (linked sibling owner (LeafEntry.memoryOwner_eq_some.1 waits)).1
          -- The entry itself is still to be checked, so the read it joins is not its own.
          have other : owner ≠ index := by
            rintro rfl
            rw [due] at ownerWaits
            cases ownerWaits
          simp only [entry] at holds waits
          simp only [entry, holds, waits]
          refine ⟨_, (replaced_setEntry inside _).of_entries_eq rfl rfl, rfl,
            .inr ⟨?_, rfl, rfl, rfl, rfl⟩⟩
          simp [LeafEntry.role?, other]

/-- A walk that was accepted begins. -/
private theorem claim_booked
    (params : Params) (leaf : LeafRequest) (linked : walker.Linked) {index : Nat}
    (inside : index < walker.entries.size) (free : (walker.entry index).state = .idle) :
    let claimed := walker.setEntry index leaf.claim
    let counted := { claimed with requests := walker.requests + 1 }
    let next : Outcome LeafWalker :=
      if leaf.request.mode = .nested && (claimed.sibling? index).isNone then
        { state := counted.setEntry index { counted.entry index with state := .tableRequest } }
      else
        place params index counted
    ∃ entry, Booked walker next.state index entry := by
  intro claimed counted next
  have idle := (LeafEntry.isIdle_iff _).2 free
  have claim : Replaced walker counted index leaf.claim :=
    (replaced_setEntry inside leaf.claim).of_entries_eq rfl rfl
  have begun : Counted walker counted [leaf.request] [] := ⟨rfl, rfl, rfl, rfl⟩
  have insideCounted : index < counted.entries.size := by
    rw [claim.size]
    exact inside
  have countedLinked : counted.Linked :=
    (reseated_of_not_waiting claim (by rw [free]; nofun) nofun).linked linked
  by_cases first : (decide (leaf.request.mode = .nested) &&
      (claimed.sibling? index).isNone) = true
  · have taken : next =
        { state := counted.setEntry index { leaf.claim with state := .tableRequest } } := by
      rw [← claim.here]
      exact if_pos first
    rw [taken]
    exact ⟨_, claim.trans (replaced_setEntry insideCounted _), some leaf.request, none,
      .began idle rfl fun _ => ⟨rfl, rfl⟩, { begun with }⟩
  · have taken : next = place params index counted := if_neg first
    rw [taken]
    obtain ⟨entry, replaced, same, ⟨postponed, shared⟩ | ⟨role, shared⟩⟩ :=
      place_counted params countedLinked insideCounted (by rw [claim.here]; rfl)
    all_goals
      rw [claim.here] at same
      have counts := begun.trans shared
      rw [show leaf.request = entry.request from same.symm] at counts
    · rw [claim.here] at postponed
      exact ⟨entry, claim.trans replaced, some entry.request, none,
        .began idle postponed.opened fun _ => ⟨postponed.block, postponed.denied⟩, counts⟩
    · exact ⟨entry, claim.trans replaced, some entry.request,
        some ⟨entry.request, .sharer⟩, .decided idle role, counts⟩

/-- A walk that is brought begins, unless it is a prefetch that is dropped. -/
theorem accept_booked
    (params : Params) (leaf : LeafRequest) (linked : walker.Linked)
    (ready : walker.ready = true) :
    ∃ index entry, Booked walker (accept params leaf walker).state index entry := by
  obtain ⟨index, found⟩ := Option.isSome_iff_exists.1 ready
  obtain ⟨inside, free⟩ := free_spec found
  refine ⟨index, ?_⟩
  simp only [accept, found]
  unfold acceptAt
  dsimp only
  split
  · exact ⟨{}, (replaced_setEntry inside {}).of_entries_eq rfl rfl, none, none,
      .unused ((LeafEntry.isIdle_iff _).2 free) rfl, rfl, rfl, rfl, rfl⟩
  · exact claim_booked params leaf linked inside free

/-- A translation lets a walk go on, or ends it if the table page has none. -/
theorem deliverStageTwo_booked
    (params : Params) (id : Nat) (result : StageTwoResult) (linked : walker.Linked)
    {index : Nat} (inside : index < walker.entries.size)
    (fresh : (walker.entry index).Fresh) :
    ∃ entry, Booked walker (deliverStageTwo params id result index walker).state index entry := by
  unfold deliverStageTwo
  dsimp only
  by_cases table : (walker.entry index).state = .tableWait id
  · have opened : (walker.entry index).isOpen = true := by
      simp [LeafEntry.isOpen, table]
    obtain ⟨block, denied⟩ := fresh opened
    simp only [table, beq_self_eq_true, if_true]
    cases fault : result.fault with
    | true =>
        let ended : LeafEntry :=
          { walker.entry index with stageTwo := some result, state := .finished }
        have role : ended.role? index = some .unmapped := by
          simp [ended, LeafEntry.role?, block, denied, fault]
        exact ⟨ended, replaced_setEntry inside ended, none, some ⟨ended.request, .unmapped⟩,
          .settled opened role rfl, rfl, rfl, rfl, rfl⟩
    | false =>
        let hosted : LeafEntry :=
          { walker.entry index with
            host := result.hostPage (walker.entry index).table
            state := .addressCheck }
        have claim := replaced_setEntry inside hosted
        have insideHosted : index < (walker.setEntry index hosted).entries.size := by
          rw [claim.size]
          exact inside
        have hostedLinked : (walker.setEntry index hosted).Linked :=
          (reseated_of_not_waiting claim (by rw [table]; nofun) nofun).linked linked
        obtain ⟨entry, replaced, same, ⟨postponed, shared⟩ | ⟨role, shared⟩⟩ :=
          place_counted params hostedLinked insideHosted (by rw [claim.here])
        · rw [claim.here] at postponed same
          have stillFresh : entry.Fresh :=
            fun _ => ⟨postponed.block.trans block, postponed.denied.trans denied⟩
          exact ⟨entry, claim.trans replaced, none, none,
            .stays opened postponed.opened same stillFresh, { shared with }⟩
        · rw [claim.here] at same
          exact ⟨entry, claim.trans replaced, none, _, .settled opened role same,
            { shared with }⟩
  · by_cases last : (walker.entry index).state = .lastWait id
    · simp only [last, beq_self_eq_true, if_true]
      refine ⟨_, replaced_setEntry inside _, none, none, .closed ?_ ?_ rfl, rfl, rfl, rfl,
        rfl⟩
      · simp [LeafEntry.isIdle, last]
      · simp [LeafEntry.isOpen, last]
    · rw [if_neg (by simpa using table), if_neg (by simpa using last)]
      exact ⟨_, ⟨rfl, rfl, inside, rfl, fun _ _ => rfl⟩, none, none, fresh.look index,
        .refl walker⟩

/-- A check counts a walk whose read is denied. -/
private theorem checkAddress_counted
    (params : Params) (protection : Protection) (index : Nat) (walker : LeafWalker) :
    (checkAddress params protection index walker).fault = none ∧
      Counted walker (checkAddress params protection index walker).state []
        (if (walker.entry index).state = .addressCheck ∧
            (protection (walker.entry index).address).accessFault = true then
          [⟨(walker.entry index).request, .denied⟩]
        else
          []) := by
  unfold checkAddress
  dsimp only
  by_cases due : (walker.entry index).state = .addressCheck
  · cases fault : (protection (walker.entry index).address).accessFault with
    | true =>
        simp only [due, beq_self_eq_true, if_true, and_self]
        exact ⟨trivial, rfl, rfl, rfl, rfl⟩
    | false =>
        simp only [due, beq_self_eq_true, if_true, Bool.false_eq_true, and_false, if_false]
        exact ⟨trivial, rfl, rfl, rfl, rfl⟩
  · simp only [beq_iff_eq, due, if_false, false_and]
    exact ⟨trivial, .refl walker⟩

private theorem tickEntry_counted
    (params : Params) (protection : Protection) (index : Nat) (walker : LeafWalker) :
    Counted walker (tickEntry params protection index walker).state []
      (if (walker.entry index).state = .addressCheck ∧
          (protection (walker.entry index).address).accessFault = true then
        [⟨(walker.entry index).request, .denied⟩]
      else
        []) := by
  obtain ⟨running, checked⟩ := checkAddress_counted params protection index walker
  have watched (current : LeafWalker) : Counted current (watch params index current).state [] [] :=
    ⟨rfl, rfl, rfl, rfl⟩
  have counted := checked.trans (watched _)
  rw [List.append_nil, List.append_nil] at counted
  unfold tickEntry
  rw [Outcome.andThen_state_of_running _ running]
  exact counted

/-- A step checks the address of a walk that is due. -/
theorem tickEntry_booked
    (params : Params) (protection : Protection) {index : Nat}
    (inside : index < walker.entries.size) (fresh : (walker.entry index).Fresh) :
    ∃ entry, Booked walker (tickEntry params protection index walker).state index entry := by
  obtain ⟨_, entry, ticked, replaced⟩ := tickEntry_cases params protection inside
  have counted := tickEntry_counted params protection index walker
  cases ticked with
  | denied watchdog due fault =>
      have opened : (walker.entry index).isOpen = true := by
        simp [LeafEntry.isOpen, due]
      let ended : LeafEntry :=
        { walker.entry index with denied := true, state := .finished, watchdog := watchdog }
      have role : ended.role? index = some .denied := by
        simp [ended, LeafEntry.role?, (fresh opened).1]
      rw [if_pos ⟨due, fault⟩] at counted
      exact ⟨ended, replaced, none, some ⟨ended.request, .denied⟩, .settled opened role rfl,
        counted⟩
  | passed watchdog due allowed =>
      have opened : (walker.entry index).isOpen = true := by
        simp [LeafEntry.isOpen, due]
      rw [if_neg (by rw [allowed]; simp)] at counted
      exact ⟨_, replaced, none, none, .stays opened rfl rfl fun _ => fresh opened, counted⟩
  | unchecked watchdog notDue =>
      rw [if_neg fun denied => notDue denied.1] at counted
      exact ⟨_, replaced, none, none, fresh.look_watchdog index watchdog, counted⟩

theorem takeFinished_booked
    (params : Params) {index : Nat} (found : walker.finishedIndex? = some index) :
    Booked walker (takeFinished params walker).state index {} := by
  have finished := (finished_spec found).2
  refine ⟨(takeFinished_spec params found).1, none, none, .closed ?_ ?_ rfl, ?_⟩
  · simp [LeafEntry.isIdle, finished]
  · simp [LeafEntry.isOpen, finished]
  · unfold takeFinished
    rw [found]
    exact ⟨rfl, rfl, rfl, rfl⟩

/-! ## All entries -/

/-- What two looks at the entries find, entry by entry. -/
def observed {Found : Type} (observe : Nat → LeafEntry → LeafEntry → Option Found)
    (walker after : LeafWalker) : List Found :=
  walker.indices.filterMap fun index => observe index (walker.entry index) (after.entry index)

/-- The walks that began. -/
def begun (walker after : LeafWalker) : List Request :=
  observed (fun _ => LeafEntry.begun?) walker after

/-- What came of walks. -/
def postings (walker after : LeafWalker) : List Posting :=
  observed LeafEntry.posting? walker after

/-- The walks of which nothing has come yet. -/
def openRequests (walker : LeafWalker) : List Request :=
  walker.indices.filterMap fun index => (walker.entry index).openRequest?

theorem observed_eq_nil
    {Found : Type} {observe : Nat → LeafEntry → LeafEntry → Option Found}
    (nothing : ∀ index, observe index (walker.entry index) (after.entry index) = none) :
    observed observe walker after = [] :=
  List.filterMap_eq_nil_iff.2 fun index _ => nothing index

/-- An entry that changes after the others were looked at adds what is found there. -/
theorem observed_of_replaced
    {Found : Type} {observe : Nat → LeafEntry → LeafEntry → Option Found} {index : Nat}
    {entry : LeafEntry} (nothing : observe index (walker.entry index) (walker.entry index) = none)
    (size : current.entries.size = walker.entries.size)
    (same : current.entry index = walker.entry index)
    (replaced : Replaced current after index entry) :
    (observed observe walker current ++
        (observe index (walker.entry index) entry).toList).Perm
      (observed observe walker after) := by
  have elsewhere (other : Nat) (different : other ≠ index) :
      observe other (walker.entry other) (after.entry other) =
        observe other (walker.entry other) (current.entry other) := by
    rw [replaced.elsewhere other different]
  have member : index ∈ walker.indices := by
    rw [indices, ← size]
    exact List.mem_range.2 replaced.inside
  have perm := filterMap_perm_of_update List.nodup_range member elsewhere
  rw [same, nothing, replaced.here] at perm
  exact List.perm_append_comm.trans perm.symm

/-- What happens to the entries between two looks is told by the counters. -/
structure Posts (walker after : LeafWalker) : Prop where
  size : after.entries.size = walker.entries.size
  looks : ∀ index, ∃ began came,
    LeafEntry.Look index (walker.entry index) (after.entry index) began came
  counted : Counted walker after (begun walker after) (postings walker after)

/-- An open walk of any entry has neither a block nor a verdict. -/
def Fresh (walker : LeafWalker) : Prop :=
  ∀ index, (walker.entry index).Fresh

theorem Posts.fresh (posts : Posts walker after) : after.Fresh := by
  intro index
  obtain ⟨_, _, look⟩ := posts.looks index
  exact look.fresh

/-- Nothing comes of walks while the counters stay. -/
theorem Posts.of_quiet
    (size : after.entries.size = walker.entries.size)
    (looks : ∀ index, LeafEntry.Look index (walker.entry index) (after.entry index) none none)
    (counted : Counted walker after [] []) : Posts walker after where
  size := size
  looks index := ⟨none, none, looks index⟩
  counted := by
    have noneBegan : begun walker after = [] :=
      observed_eq_nil fun index => (looks index).spec.1
    have noneCame : postings walker after = [] :=
      observed_eq_nil fun index => (looks index).spec.2.1
    rw [noneBegan, noneCame]
    exact counted

theorem Posts.refl (fresh : walker.Fresh) : Posts walker walker :=
  .of_quiet rfl (fun index => (fresh index).look index) (.refl walker)

/-- One more entry was replaced, which had not changed before. -/
theorem Posts.booked
    {index : Nat} {entry : LeafEntry} (posts : Posts walker current) (fresh : walker.Fresh)
    (same : current.entry index = walker.entry index)
    (booked : Booked current after index entry) : Posts walker after := by
  obtain ⟨began, came, look, counted⟩ := booked.counted
  rw [same] at look
  obtain ⟨beganHere, cameHere, _⟩ := look.spec
  have nothing := ((fresh index).look index).spec
  have allBegan :
      (begun walker current ++ (LeafEntry.begun? (walker.entry index) entry).toList).Perm
        (begun walker after) :=
    observed_of_replaced nothing.1 posts.size same booked.toReplaced
  have allCame :
      (postings walker current ++
          (LeafEntry.posting? index (walker.entry index) entry).toList).Perm
        (postings walker after) :=
    observed_of_replaced nothing.2.1 posts.size same booked.toReplaced
  refine ⟨booked.size.trans posts.size, ?_, ?_⟩
  · intro other
    by_cases here : other = index
    · rw [here, booked.here]
      exact ⟨began, came, look⟩
    · rw [booked.elsewhere other here]
      exact posts.looks other
  · rw [beganHere] at allBegan
    rw [cameHere] at allCame
    exact (posts.counted.trans counted).of_perm allBegan allCame

/-- A single entry was replaced. -/
theorem Booked.posts
    {index : Nat} {entry : LeafEntry} (booked : Booked walker after index entry)
    (fresh : walker.Fresh) : Posts walker after :=
  (Posts.refl fresh).booked fresh rfl booked

/-- No walk is lost, and none is put down twice. -/
theorem Posts.conserved (posts : Posts walker after) :
    (begun walker after ++ walker.openRequests).Perm
      ((postings walker after).map (·.request) ++ after.openRequests) := by
  have each (index : Nat) :
      (LeafEntry.begun? (walker.entry index) (after.entry index)).toList ++
          (walker.entry index).openRequest?.toList =
        (LeafEntry.posting? index (walker.entry index) (after.entry index)).toList.map
            (·.request) ++
          (after.entry index).openRequest?.toList := by
    obtain ⟨_, _, look⟩ := posts.looks index
    obtain ⟨rfl, rfl, same⟩ := look.spec
    exact same
  have afterIndices : after.indices = walker.indices := by
    rw [indices, indices, posts.size]
  unfold begun postings observed openRequests
  rw [afterIndices]
  simp only [List.filterMap_eq_flatMap_toList, List.map_flatMap]
  calc
    List.Perm _ (walker.indices.flatMap fun index =>
        (LeafEntry.begun? (walker.entry index) (after.entry index)).toList ++
          (walker.entry index).openRequest?.toList) := List.flatMap_append_perm _ _ _
    List.Perm _ _ := by
      simp only [each]
      exact (List.flatMap_append_perm _ _ _).symm

end LeafWalker

end PageWalk
