import PageWalk.Proofs.LeafWalker.Postings

/-!
# Accounts of the leaf walker

Every operation short of a flush counts what the observer of the entries writes down. So the
counters of the walker are those of the books, and each walk that began is put down in them
once or is still open.
-/

namespace PageWalk.LeafWalker

variable {walker : LeafWalker}

/-! ## Operations -/

/-- What can be done to the leaf walker, short of a flush. -/
inductive Call
  | accept (leaf : LeafRequest)
  | tick (protection : Protection)
  | fireMemory
  | takeBlock (id : Nat) (block : Block)
  | fireStageTwo
  | takeStageTwo (id : Nat) (result : StageTwoResult)
  | takeFinished

def apply (params : Params) (walker : LeafWalker) : Call → Outcome LeafWalker
  | .accept leaf => accept params leaf walker
  | .tick protection => tick params protection walker
  | .fireMemory => fireMemory params walker
  | .takeBlock id block => takeBlock params id block walker
  | .fireStageTwo => fireStageTwo params walker
  | .takeStageTwo id result => takeStageTwo params id result walker
  | .takeFinished => takeFinished params walker

/-- A step looks at every entry once. -/
theorem tick_posts (params : Params) (protection : Protection) (fresh : walker.Fresh) :
    Posts walker (tick params protection walker).state := by
  -- What is found at an entry counts from the first look, so its turn must find it unchanged.
  let untouched (index : Nat) (current : LeafWalker) : Prop :=
    current.entry index = walker.entry index
  have step (index : Nat) (member : index ∈ walker.indices) (current : LeafWalker)
      (posts : Posts walker current) (same : untouched index current) :
      Posts walker (tickEntry params protection index current).state ∧
        ∀ other, other ≠ index → untouched other current →
          untouched other (tickEntry params protection index current).state := by
    have inside : index < current.entries.size := by
      rw [posts.size]
      exact List.mem_range.1 member
    obtain ⟨entry, booked⟩ := tickEntry_booked params protection inside (posts.fresh index)
    exact ⟨posts.booked fresh same booked,
      fun other different before => (booked.elsewhere other different).trans before⟩
  have visited : Posts walker
      (Outcome.forEach (tickEntry params protection) walker.indices walker).state :=
    Outcome.forEach_visits List.nodup_range step (.refl fresh) fun _ _ => rfl
  unfold tick
  refine Outcome.andThen_state_induction visited fun _ posts => ?_
  exact ⟨posts.size, posts.looks, { posts.counted with }⟩

/-- A translation is offered to every entry once. -/
theorem takeStageTwo_posts
    (params : Params) (id : Nat) (result : StageTwoResult) (linked : walker.Linked)
    (fresh : walker.Fresh) (busy : walker.stageTwoBusy = true) :
    Posts walker (takeStageTwo params id result walker).state := by
  let untouched (index : Nat) (current : LeafWalker) : Prop :=
    current.entry index = walker.entry index
  have step (index : Nat) (member : index ∈ walker.indices) (current : LeafWalker)
      (before : Delivering walker current ∧ Posts walker current)
      (same : untouched index current) :
      (Delivering walker (deliverStageTwo params id result index current).state ∧
          Posts walker (deliverStageTwo params id result index current).state) ∧
        ∀ other, other ≠ index → untouched other current →
          untouched other (deliverStageTwo params id result index current).state := by
    obtain ⟨delivering, posts⟩ := before
    have inside := List.mem_range.1 member
    obtain ⟨entry, booked⟩ := deliverStageTwo_booked params id result delivering.linked
      (by rw [posts.size]; exact inside) (posts.fresh index)
    exact ⟨⟨delivering.deliver inside, posts.booked fresh same booked⟩,
      fun other different before => (booked.elsewhere other different).trans before⟩
  have start : Posts walker { walker with stageTwoBusy := false } :=
    .of_quiet rfl (fun index => (fresh index).look index) ⟨rfl, rfl, rfl, rfl⟩
  rw [takeStageTwo_of_busy params id result busy]
  exact (Outcome.forEach_visits List.nodup_range step ⟨delivering_of_linked linked, start⟩
    fun _ _ => rfl).2

section Changes

variable {entry : LeafEntry}

private theorem look_takeRead
    (fresh : entry.Fresh) (params : Params) (id : Nat) (block : Block) (index : Nat) :
    LeafEntry.Look index entry (takeRead params id block entry) none none := by
  unfold takeRead
  split
  · rename_i waits
    have state := eq_of_beq waits
    refine .closed ?_ ?_ ?_
    · simp [LeafEntry.isIdle, state]
    · simp [LeafEntry.isOpen, state]
    · exact LeafEntry.not_open_of_role (LeafEntry.role_withBlock index entry params block)
  · exact fresh.look index

private theorem look_joinTable
    (fresh : entry.Fresh) (gvpn : Word) (chosen index : Nat) :
    LeafEntry.Look index entry (joinTable gvpn chosen entry) none none := by
  unfold joinTable
  split
  · rename_i joins
    simp only [Bool.and_eq_true, beq_iff_eq] at joins
    have opened : entry.isOpen = true := by
      simp [LeafEntry.isOpen, joins.1]
    exact .stays opened rfl rfl fun _ => fresh opened
  · exact fresh.look index

private theorem look_joinLast
    (fresh : entry.Fresh) (gvpn : Word) (chosen index : Nat) :
    LeafEntry.Look index entry (joinLast gvpn chosen entry) none none := by
  unfold joinLast
  split
  · rename_i joins
    simp only [Bool.and_eq_true, beq_iff_eq] at joins
    exact .closed (by simp [LeafEntry.isIdle, joins.1]) (by simp [LeafEntry.isOpen, joins.1]) rfl
  · exact fresh.look index

/-- What comes of a walk when a read is sent. -/
private def joined (request : Request) (chosen index : Nat) (entry : LeafEntry) :
    Option Posting :=
  if joinsRead request entry then
    some ⟨entry.request, if chosen = index then .owner else .sharer⟩
  else
    none

private theorem look_joinRead
    (fresh : entry.Fresh) (request : Request) (chosen index : Nat) :
    LeafEntry.Look index entry (joinRead request chosen entry) none
      (joined request chosen index entry) := by
  unfold joinRead joined
  split
  · rename_i joins
    have opened : entry.isOpen = true := by
      rcases (joinsRead_states joins).1 with state | state <;> simp [LeafEntry.isOpen, state]
    exact .settled opened rfl rfl
  · exact fresh.look index

end Changes

/-- A read that is sent counts its owner once, and all others that join it as sharers. -/
private theorem counted_joined
    {chosen : Nat} (asks : (walker.entry chosen).state = .memoryRequest) :
    let request := (walker.entry chosen).request
    let came := walker.indices.filterMap fun index =>
      joined request chosen index (walker.entry index)
    tally .owner came = 1 ∧
      tally .sharer came =
        (walker.indices.countP fun index =>
          index != chosen && joinsRead request (walker.entry index)) ∧
      tally .denied came = 0 := by
  intro request came
  have inside : chosen ∈ walker.indices :=
    List.mem_range.2 (lt_size_of_busy (by rw [asks]; nofun))
  have joins : joinsRead request (walker.entry chosen) = true := by
    simp [joinsRead, asks, request, Request.sharesSector_refl]
  have each (role : Role) (index : Nat) :
      ((joined request chosen index (walker.entry index)).map (·.role == role)).getD false =
        (joinsRead request (walker.entry index) &&
          (if chosen = index then Role.owner else .sharer) == role) := by
    unfold joined
    cases joinsRead request (walker.entry index) <;> rfl
  unfold tally
  simp only [came, List.countP_filterMap, each]
  refine ⟨?_, ?_, ?_⟩
  · rw [← List.count_eq_one_of_mem List.nodup_range inside, List.count]
    refine List.countP_congr fun index _ => ?_
    by_cases here : chosen = index
    · simp [← here, joins]
    · simp [here, Ne.symm here]
  · refine List.countP_congr fun index _ => ?_
    by_cases here : chosen = index
    · simp [here]
    · simp [here, Ne.symm here]
  · refine List.countP_eq_zero.2 fun index _ => ?_
    by_cases here : chosen = index <;> simp [here]

theorem fireMemory_posts
    (params : Params) (fresh : walker.Fresh) {request : MemoryRequest}
    (wanted : walker.memoryRequest? = some request) :
    Posts walker (fireMemory params walker).state := by
  obtain ⟨changed, _, _⟩ := fireMemory_spec params wanted
  obtain ⟨_, asks⟩ := memoryRequest_spec wanted
  obtain ⟨owners, sharers, denied⟩ := counted_joined asks
  obtain ⟨chosen, choice, rfl⟩ := Option.map_eq_some_iff.1 wanted
  have looks (index : Nat) :
      LeafEntry.Look index (walker.entry index) ((fireMemory params walker).state.entry index)
        none (joined (walker.entry chosen).request chosen index (walker.entry index)) := by
    rw [changed.entry]
    exact look_joinRead (fresh index) _ chosen index
  have noneBegan : begun walker (fireMemory params walker).state = [] :=
    observed_eq_nil fun index => (looks index).spec.1
  have came : postings walker (fireMemory params walker).state =
      walker.indices.filterMap fun index =>
        joined (walker.entry chosen).request chosen index (walker.entry index) :=
    List.filterMap_congr fun index _ => (looks index).spec.2.1
  refine ⟨changed.size, fun index => ⟨none, _, looks index⟩, ?_⟩
  rw [noneBegan, came]
  unfold fireMemory
  rw [choice]
  exact ⟨rfl, congrArg (walker.memoryRequests + ·) owners.symm,
    congrArg (walker.sharedRequests + ·) sharers.symm,
    congrArg (walker.accessFaults + ·) denied.symm⟩

theorem takeBlock_posts
    (params : Params) (block : Block) (fresh : walker.Fresh) {id : Nat}
    (waits : walker.awaitsBlock id = true) :
    Posts walker (takeBlock params id block walker).state := by
  rw [awaitsBlock_iff] at waits
  obtain ⟨changed, _, _⟩ := takeBlock_spec params block waits
  refine .of_quiet changed.size (fun index => ?_) ?_
  · rw [changed.entry]
    exact look_takeRead (fresh index) params id block index
  · unfold takeBlock
    rw [if_neg (Nat.not_le.2 (lt_size_of_busy (by rw [waits]; nofun))), refill_spec waits]
    exact ⟨rfl, rfl, rfl, rfl⟩

theorem fireStageTwo_posts (params : Params) (linked : walker.Linked) (fresh : walker.Fresh) :
    Posts walker (fireStageTwo params walker).state ∧
      (fireStageTwo params walker).state.Linked := by
  have counted : Counted walker (fireStageTwo params walker).state [] [] := by
    unfold fireStageTwo
    split
    · exact .refl walker
    · dsimp only
      split <;> exact ⟨rfl, rfl, rfl, rfl⟩
  have unchanged (entries : (fireStageTwo params walker).state.entries = walker.entries) :
      Posts walker (fireStageTwo params walker).state ∧
        (fireStageTwo params walker).state.Linked := by
    have changed : Changed walker (fireStageTwo params walker).state id :=
      changed_map (by rw [entries, Array.map_id]) rfl
    refine ⟨.of_quiet changed.size (fun index => ?_) counted, ?_⟩
    · rw [changed.entry]
      exact (fresh index).look index
    · exact (changed.alike (fun _ => rfl) (fun _ => rfl) fun _ => rfl).linked linked
  by_cases wants : walker.wantsStageTwo = true
  · cases chosen : walker.stageTwoRequest? with
    | some request =>
        refine ⟨?_, (fireStageTwo_alike params wants chosen).linked linked⟩
        obtain ⟨_, _, _, _, _, ⟨changed, _⟩ | ⟨changed, _⟩⟩ :=
          fireStageTwo_cases params wants chosen
        · refine .of_quiet changed.size (fun index => ?_) counted
          rw [changed.entry]
          exact look_joinTable (fresh index) request.gvpn request.id index
        · refine .of_quiet changed.size (fun index => ?_) counted
          rw [changed.entry]
          exact look_joinLast (fresh index) request.gvpn request.id index
    | none =>
        apply unchanged
        unfold stageTwoRequest? at chosen
        unfold fireStageTwo
        split at chosen
        · cases chosen
        · cases chosen
        · rw [if_neg (by rw [wants]; simp)]
  · apply unchanged
    unfold fireStageTwo
    rw [if_pos (by simp [wants])]
    rfl

/-! ## Runs -/

/-- Whatever is done to the walker short of a flush, the counters tell what happens to its
entries. -/
theorem apply_posts
    (params : Params) (call : Call) (linked : walker.Linked) (fresh : walker.Fresh) :
    Posts walker (apply params walker call).state ∧ (apply params walker call).state.Linked := by
  have refused (cause : Misuse) :
      Posts walker (walker.misuse params cause).state ∧
        (walker.misuse params cause).state.Linked :=
    ⟨.refl fresh, linked⟩
  cases call with
  | accept leaf =>
      change Posts walker (accept params leaf walker).state ∧
        (accept params leaf walker).state.Linked
      by_cases ready : walker.ready = true
      · obtain ⟨_, _, booked⟩ := accept_booked params leaf linked ready
        exact ⟨booked.posts fresh, linked.accept params leaf ready⟩
      · unfold accept
        rw [Option.not_isSome_iff_eq_none.1 ready]
        exact refused _
  | tick protection =>
      exact ⟨tick_posts params protection fresh,
        (tick_alike params protection walker).linked linked⟩
  | fireMemory =>
      change Posts walker (fireMemory params walker).state ∧
        (fireMemory params walker).state.Linked
      cases wanted : walker.memoryRequest? with
      | some request =>
          exact ⟨fireMemory_posts params fresh wanted, linked.fireMemory params wanted⟩
      | none =>
          unfold fireMemory
          rw [Option.map_eq_none_iff.1 wanted]
          exact refused _
  | takeBlock id block =>
      change Posts walker (takeBlock params id block walker).state ∧
        (takeBlock params id block walker).state.Linked
      by_cases waits : walker.awaitsBlock id = true
      · exact ⟨takeBlock_posts params block fresh waits, linked.takeBlock params block waits⟩
      · rw [awaitsBlock_iff] at waits
        rcases takeBlock_of_unawaited params block waits with stopped | stopped
        all_goals
          rw [stopped]
          exact refused _
  | fireStageTwo => exact fireStageTwo_posts params linked fresh
  | takeStageTwo id result =>
      change Posts walker (takeStageTwo params id result walker).state ∧
        (takeStageTwo params id result walker).state.Linked
      by_cases busy : walker.stageTwoBusy = true
      · exact ⟨takeStageTwo_posts params id result linked fresh busy,
          linked.takeStageTwo params id result busy⟩
      · unfold takeStageTwo
        rw [if_pos (by simp [busy])]
        exact refused _
  | takeFinished =>
      change Posts walker (takeFinished params walker).state ∧
        (takeFinished params walker).state.Linked
      cases found : walker.finishedIndex? with
      | some index =>
          exact ⟨(takeFinished_booked params found).posts fresh,
            (takeFinished_reseated params found).linked linked⟩
      | none =>
          unfold takeFinished
          rw [found]
          exact refused _

/-- The walker, and what an observer has written down: the walks that began, and what came
of walks. -/
structure Books where
  walker : LeafWalker
  begun : List Request := []
  postings : List Posting := []

namespace Books

/-- The books of a walker to which nothing was done. -/
def start (params : Params) : Books where
  walker := create params

/-- The observer looks at the entries before and after an operation. -/
def perform (params : Params) (call : Call) (books : Books) : Outcome Books :=
  (apply params books.walker call).map fun after =>
    { walker := after
      begun := books.begun ++ books.walker.begun after
      postings := books.postings ++ books.walker.postings after }

/-- Performs operations until one of them stops the walker. -/
def run (params : Params) (calls : List Call) (books : Books) : Outcome Books :=
  Outcome.forEach (perform params) calls books

/-- The counters of the walker are right, and every walk that began is either put down once
or still open. -/
structure Balanced (books : Books) : Prop where
  requests : books.walker.requests = books.begun.length
  owners : books.walker.memoryRequests = tally .owner books.postings
  sharers : books.walker.sharedRequests = tally .sharer books.postings
  denied : books.walker.accessFaults = tally .denied books.postings
  once : books.begun.Perm (books.postings.map (·.request) ++ books.walker.openRequests)

theorem Balanced.perform
    {books : Books} (balanced : books.Balanced) (params : Params) (call : Call)
    (posts : Posts books.walker (apply params books.walker call).state) :
    (books.perform params call).state.Balanced := by
  have counted := posts.counted
  have tally_append (role : Role) (left right : List Posting) :
      tally role (left ++ right) = tally role left + tally role right := List.countP_append
  unfold Books.perform
  rw [Outcome.map_state]
  generalize (apply params books.walker call).state = after at posts counted ⊢
  constructor
  · rw [counted.requests, balanced.requests, List.length_append]
  · rw [counted.owners, balanced.owners, tally_append]
  · rw [counted.sharers, balanced.sharers, tally_append]
  · rw [counted.denied, balanced.denied, tally_append]
  · dsimp only
    rw [List.map_append]
    -- The walks that were open before pay for what came of walks now.
    calc
      List.Perm (books.begun ++ books.walker.begun after)
          (books.postings.map (·.request) ++ books.walker.openRequests ++
            books.walker.begun after) := balanced.once.append_right _
      List.Perm _ (books.postings.map (·.request) ++
          (books.walker.begun after ++ books.walker.openRequests)) := by
        rw [List.append_assoc]
        exact List.perm_append_comm.append_left _
      List.Perm _ (books.postings.map (·.request) ++
          ((books.walker.postings after).map (·.request) ++ after.openRequests)) :=
        posts.conserved.append_left _
      List.Perm _ _ := by rw [List.append_assoc]

end Books

/-- The number of open walks. -/
def openCount (walker : LeafWalker) : Nat :=
  walker.entries.countP (·.isOpen)

theorem length_openRequests (walker : LeafWalker) :
    walker.openRequests.length = walker.openCount := by
  have all : walker.indices.map walker.entry = walker.entries.toList := by
    refine List.ext_getElem (by simp [indices]) fun index below _ => ?_
    have inside : index < walker.entries.size := by
      simpa [indices] using below
    simp [indices, entry, inside]
  have isSome (entry : LeafEntry) : entry.openRequest?.isSome = entry.isOpen := by
    unfold LeafEntry.openRequest?
    split <;> simp_all
  calc
    walker.openRequests.length
        = ((walker.indices.map walker.entry).filterMap (·.openRequest?)).length := by
          rw [List.filterMap_map]
          rfl
    _ = walker.entries.toList.countP (·.openRequest?.isSome) := by
          rw [all, List.length_filterMap_eq_countP]
    _ = walker.openCount := by
          simp only [isSome, Array.countP_toList]
          rfl

/-- Every line of the books is of one of the four kinds. -/
theorem length_eq_tally (postings : List Posting) :
    postings.length =
      tally .owner postings + tally .sharer postings + tally .denied postings +
        tally .unmapped postings := by
  induction postings with
  | nil => rfl
  | cons posting postings inductionHypothesis =>
      unfold tally at inductionHypothesis ⊢
      simp only [List.length_cons, List.countP_cons, inductionHypothesis]
      cases posting.role <;> simp <;> omega

/-- At every point of a run without a flush, every walk that was accepted is put down exactly
once, as the owner of a read, as a sharer, as denied or as without a table page, or it is
still open; and the counters of the walker are the numbers of these. -/
theorem balanced_of_run (params : Params) (calls : List Call) :
    let books := (Books.run params calls (.start params)).state
    books.Balanced ∧
      books.walker.requests =
        books.walker.memoryRequests + books.walker.sharedRequests + books.walker.accessFaults +
          tally .unmapped books.postings + books.walker.openCount := by
  let kept (books : Books) : Prop :=
    books.walker.Linked ∧ books.walker.Fresh ∧ books.Balanced
  have start : kept (.start params) := by
    have idle (index : Nat) : (create params).entry index = {} := entry_create params index
    have noneOpen : (create params).openRequests = [] :=
      List.filterMap_eq_nil_iff.2 fun index _ => by rw [idle]; rfl
    refine ⟨(orderly_of_idle idle rfl).linked, fun index => ?_, rfl, rfl, rfl, rfl, ?_⟩
    · change ((create params).entry index).Fresh
      rw [idle]
      exact fun _ => ⟨rfl, rfl⟩
    · change List.Perm [] ([] ++ (create params).openRequests)
      rw [noneOpen]
      exact .nil
  have step (call : Call) (_ : call ∈ calls) (books : Books) (before : kept books) :
      kept (books.perform params call).state := by
    obtain ⟨linked, fresh, balanced⟩ := before
    obtain ⟨posts, stillLinked⟩ := apply_posts params call linked fresh
    exact ⟨stillLinked, posts.fresh, balanced.perform params call posts⟩
  intro books
  have reached : kept books := Outcome.forEach_state_induction step start
  obtain ⟨_, _, balanced⟩ := reached
  refine ⟨balanced, ?_⟩
  have length := balanced.once.length_eq
  rw [List.length_append, List.length_map, length_openRequests, length_eq_tally] at length
  rw [balanced.requests, length, balanced.owners, balanced.sharers, balanced.denied]

/-- A read with a sharer, a guest page that is missing, a denied read, and a walk that is
still open. -/
example :
    let walk (vpn : Word) (mode : Mode) : Call :=
      .accept { request := { vpn := vpn, mode := mode }, ppn := 1 }
    let calls : List Call :=
      [walk 0 .direct, .tick .allowAll, walk 1 .direct, .fireMemory, walk 0x100 .nested,
        .fireStageTwo, .takeStageTwo 2 { pageFault := true }, walk 0x200 .direct,
        .tick fun _ => { denied := true }, .takeFinished, walk 0x300 .direct]
    let books := (Books.run .small calls (.start .small)).state
    books.postings.map (·.role) = [.owner, .sharer, .unmapped, .denied] ∧
      (books.walker.requests, books.walker.openCount) = (5, 1) := by
  decide +kernel

end PageWalk.LeafWalker
