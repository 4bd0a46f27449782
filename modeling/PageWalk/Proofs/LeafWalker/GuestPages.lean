import PageWalk.Proofs.LeafWalker.Traffic

/-!
# Shared guest pages

One guest page of the leaf walker is on its way at a time. All entries that wait for a
translation wait for this page, in one state, and one of them has asked for it. The
translation brings every one of them on, so nobody waits for a page that nobody asks for.
-/

namespace PageWalk

namespace LeafEntry

/-! ## One entry -/

/-- The entry waits for the translation of a guest page. -/
def AwaitsPage (entry : LeafEntry) : Prop :=
  ∃ owner, entry.state = .tableWait owner ∨ entry.state = .lastWait owner

/-- The guest page that an entry waits for is its table page or its leaf page. -/
theorem awaitedPage_eq_some {entry : LeafEntry} {owner : Nat} {gvpn : Word} :
    entry.awaitedPage? = some (owner, gvpn) ↔
      (entry.state = .tableWait owner ∧ entry.table = gvpn) ∨
        (entry.state = .lastWait owner ∧ entry.lastPage = gvpn) := by
  unfold awaitedPage?
  cases entry.state <;> simp

theorem awaitedPage_of_awaitsPage {entry : LeafEntry} (waits : entry.AwaitsPage) :
    ∃ page, entry.awaitedPage? = some page := by
  obtain ⟨owner, table | last⟩ := waits
  · exact ⟨(owner, entry.table), awaitedPage_eq_some.2 (Or.inl ⟨table, rfl⟩)⟩
  · exact ⟨(owner, entry.lastPage), awaitedPage_eq_some.2 (Or.inr ⟨last, rfl⟩)⟩

theorem awaitsPage_of_awaitedPage
    {entry : LeafEntry} {page : Nat × Word} (waits : entry.awaitedPage? = some page) :
    entry.AwaitsPage := by
  rcases awaitedPage_eq_some.1 waits with ⟨table, _⟩ | ⟨last, _⟩
  · exact ⟨page.1, Or.inl table⟩
  · exact ⟨page.1, Or.inr last⟩

theorem not_awaitsPage {entry : LeafEntry} (patient : entry.awaitedPage? = none) :
    ¬ entry.AwaitsPage := by
  intro waits
  obtain ⟨page, found⟩ := awaitedPage_of_awaitsPage waits
  rw [patient] at found
  cases found

/-- How an entry goes on when the translation arrives that the walker has asked for. -/
inductive Resumed (result : StageTwoResult) (entry : LeafEntry) : LeafEntry → Prop
  | untouched (patient : ¬ entry.AwaitsPage) : Resumed result entry entry
  /-- The table page has no translation. -/
  | unmapped (owner : Nat) (waited : entry.state = .tableWait owner)
      (fault : result.fault = true) :
      Resumed result entry { entry with stageTwo := some result, state := .finished }
  /-- The table page is known, and the entry goes for its block. -/
  | hosted (owner : Nat) (waited : entry.state = .tableWait owner)
      (mapped : result.fault = false) {next : LeafEntry}
      (request : next.request = entry.request)
      (host : next.host = result.hostPage entry.table)
      (placed : next.state = .addressCheck ∨ (∃ reader, next.state = .memoryWait reader) ∨
        next.state = .lastRequest ∨ next.state = .finished) :
      Resumed result entry next
  | translated (owner : Nat) (waited : entry.state = .lastWait owner) :
      Resumed result entry { entry with stageTwo := some result, state := .finished }

theorem Resumed.not_awaitsPage
    {result : StageTwoResult} {entry next : LeafEntry} (resumed : entry.Resumed result next) :
    ¬ next.AwaitsPage := by
  cases resumed with
  | untouched patient => exact patient
  | unmapped | translated => exact LeafEntry.not_awaitsPage rfl
  | hosted owner waited mapped request host placed =>
      rintro ⟨other, waits⟩
      rcases placed with state | ⟨reader, state⟩ | state | state
      all_goals
        rw [state] at waits
        rcases waits with waits | waits <;> cases waits

end LeafEntry

namespace LeafWalker

variable {walker after : LeafWalker}

/-! ## Waits of one kind -/

/-- All entries that wait for a guest page are in the same state. -/
def Agreed (walker : LeafWalker) : Prop :=
  ∀ index other, (walker.entry index).AwaitsPage → (walker.entry other).AwaitsPage →
    (walker.entry other).state = (walker.entry index).state

/-- Whoever waits for a guest page has waited for it before. -/
def PageWaitsKept (walker after : LeafWalker) : Prop :=
  ∀ index, (after.entry index).AwaitsPage →
    (after.entry index).state = (walker.entry index).state

theorem Agreed.of_kept (agreed : walker.Agreed) (kept : PageWaitsKept walker after) :
    after.Agreed := by
  have before (index : Nat) (waits : (after.entry index).AwaitsPage) :
      (walker.entry index).AwaitsPage := by
    unfold LeafEntry.AwaitsPage at waits ⊢
    rw [← kept index waits]
    exact waits
  intro index other waits otherWaits
  rw [kept index waits, kept other otherWaits]
  exact agreed index other (before index waits) (before other otherWaits)

theorem agreed_of_patient (patient : ∀ index, ¬ (walker.entry index).AwaitsPage) :
    walker.Agreed :=
  fun index _ waits => absurd waits (patient index)

theorem agreed_of_idle (idle : ∀ index, walker.entry index = {}) : walker.Agreed := by
  refine agreed_of_patient fun index => ?_
  rw [idle]
  exact LeafEntry.not_awaitsPage rfl

theorem Replaced.pageWaitsKept
    {index : Nat} {entry : LeafEntry} (replaced : Replaced walker after index entry)
    (patient : entry.awaitedPage? = none) : PageWaitsKept walker after := by
  intro tested waits
  by_cases here : tested = index
  · rw [here, replaced.here] at waits
    exact absurd waits (LeafEntry.not_awaitsPage patient)
  · rw [replaced.elsewhere tested here]

theorem Changed.pageWaitsKept
    {change : LeafEntry → LeafEntry} (changed : Changed walker after change)
    (keeps : ∀ entry, (change entry).AwaitsPage → change entry = entry) :
    PageWaitsKept walker after := by
  intro index waits
  rw [changed.entry] at waits ⊢
  rw [keeps _ waits]

/-! ## The operations -/

theorem Agreed.accept
    (agreed : walker.Agreed) (params : Params) (leaf : LeafRequest)
    (ready : walker.ready = true) : (accept params leaf walker).state.Agreed := by
  obtain ⟨index, _, _, ⟨replaced, _⟩ | ⟨entry, admitted, replaced, _⟩⟩ :=
    accept_cases params leaf ready
  · exact agreed.of_kept (replaced.pageWaitsKept rfl)
  · refine agreed.of_kept (replaced.pageWaitsKept ?_)
    cases admitted with
    | table => rfl
    | placed placed => exact placed.awaitedPage

theorem Agreed.fireMemory
    (agreed : walker.Agreed) (params : Params) {request : MemoryRequest}
    (wanted : walker.memoryRequest? = some request) :
    (fireMemory params walker).state.Agreed := by
  obtain ⟨changed, _, _⟩ := fireMemory_spec params wanted
  refine agreed.of_kept (changed.pageWaitsKept fun entry waits => ?_)
  unfold joinRead at waits ⊢
  split at waits
  · exact absurd waits (LeafEntry.not_awaitsPage rfl)
  · rename_i apart
    rw [if_neg apart]

theorem Agreed.takeBlock
    (agreed : walker.Agreed) (params : Params) (block : Block) {id : Nat}
    (waits : walker.awaitsBlock id = true) :
    (takeBlock params id block walker).state.Agreed := by
  obtain ⟨changed, _, _⟩ := takeBlock_spec params block ((awaitsBlock_iff _ _).1 waits)
  refine agreed.of_kept (changed.pageWaitsKept fun entry waits => ?_)
  unfold takeRead at waits ⊢
  split at waits
  · exact absurd waits (LeafEntry.not_awaitsPage (LeafEntry.withBlock_awaitedPage _ _ _))
  · rename_i others
    rw [if_neg others]

/-- Nobody has waited for a guest page before, and all who wait now have joined the same
wait. -/
theorem Agreed.fireStageTwo
    {ticket : Option (Nat × Word)} (orderly : walker.Orderly ticket) (params : Params)
    {request : StageTwoRequest} (wants : walker.wantsStageTwo = true)
    (chosen : walker.stageTwoRequest? = some request) :
    (fireStageTwo params walker).state.Agreed := by
  have patient (index : Nat) : ¬ (walker.entry index).AwaitsPage := by
    intro waits
    obtain ⟨page, found⟩ := LeafEntry.awaitedPage_of_awaitsPage waits
    have asked := orderly.waits index page found
    rw [orderly.ticket_of_wantsStageTwo wants] at asked
    cases asked
  have alike (state : LeafState) {fired : LeafWalker} {change : LeafEntry → LeafEntry}
      (changed : Changed walker fired change)
      (joins : ∀ entry, change entry = { entry with state := state } ∨ change entry = entry) :
      fired.Agreed := by
    have waiting (index : Nat) (waits : (fired.entry index).AwaitsPage) :
        (fired.entry index).state = state := by
      rw [changed.entry] at waits ⊢
      rcases joins (walker.entry index) with joined | same
      · rw [joined]
      · rw [same] at waits
        exact absurd waits (patient index)
    intro index other waits otherWaits
    rw [waiting index waits, waiting other otherWaits]
  obtain ⟨_, _, _, _, _, ⟨changed, _⟩ | ⟨changed, _⟩⟩ := fireStageTwo_cases params wants chosen
  · refine alike (.tableWait request.id) changed fun entry => ?_
    unfold joinTable
    split
    · exact Or.inl rfl
    · exact Or.inr rfl
  · refine alike (.lastWait request.id) changed fun entry => ?_
    unfold joinLast
    split
    · exact Or.inl rfl
    · exact Or.inr rfl

theorem Agreed.takeFinished
    (agreed : walker.Agreed) (params : Params) {index : Nat}
    (found : walker.finishedIndex? = some index) : (takeFinished params walker).state.Agreed :=
  agreed.of_kept ((takeFinished_spec params found).1.pageWaitsKept rfl)

theorem Agreed.tick
    (agreed : walker.Agreed) (params : Params) (protection : Protection) :
    (tick params protection walker).state.Agreed := by
  refine (tick_induction params Agreed ?_ (fun same _ => same) agreed).1
  intro index current next entry before ticked replaced
  refine before.of_kept fun tested waits => ?_
  by_cases here : tested = index
  · rw [here, replaced.here] at waits ⊢
    cases ticked with
    | denied | passed => exact absurd waits (LeafEntry.not_awaitsPage rfl)
    | unchecked => rfl
  · rw [replaced.elsewhere tested here]

/-! ## The delivery of a translation -/

private theorem Delivered.resumed
    {params : Params} {id index : Nat} {result : StageTwoResult} {entry : LeafEntry}
    (inside : index < walker.entries.size)
    (delivered : Delivered params id result walker index entry) :
    (walker.entry index).Resumed result entry := by
  cases delivered with
  | unmapped waits fault => exact .unmapped id waits fault
  | last waits => exact .translated id waits
  | table waits mapped placed =>
      have here := entry_setEntry_self inside
        { walker.entry index with
          host := result.hostPage (walker.entry index).table
          state := .addressCheck }
      cases placed with
      | alone =>
          rw [here]
          exact .hosted id waits mapped rfl rfl (Or.inl rfl)
      | copied sibling block =>
          rw [here]
          refine .hosted id waits mapped (LeafEntry.withBlock_request _ _ _) ?_ ?_
          · unfold LeafEntry.withBlock
            dsimp only
            split <;> rfl
          · exact Or.inr (Or.inr (LeafEntry.withBlock_state _ params block))
      | joined sibling owner =>
          rw [here]
          exact .hosted id waits mapped rfl rfl (Or.inr (Or.inl ⟨owner, rfl⟩))

private theorem Delivered.awaitsPage
    {params : Params} {id index : Nat} {result : StageTwoResult} {entry : LeafEntry}
    (delivered : Delivered params id result walker index entry) :
    (walker.entry index).AwaitsPage := by
  cases delivered with
  | unmapped waits | table waits => exact ⟨id, Or.inl waits⟩
  | last waits => exact ⟨id, Or.inr waits⟩

/-- The walker on the way through the delivery of a translation: an entry is as it was
before, or it has gone on. -/
private structure Resuming (result : StageTwoResult) (walker current : LeafWalker) : Prop where
  delivering : Delivering walker current
  entries : ∀ index, current.entry index = walker.entry index ∨
    (walker.entry index).Resumed result (current.entry index)

private theorem Resuming.here
    {params : Params} {id index : Nat} {gvpn : Word} {result : StageTwoResult}
    {current : LeafWalker} (resuming : Resuming result walker current)
    (orderly : walker.Orderly (some (id, gvpn))) (inside : index < current.entries.size) :
    (walker.entry index).Resumed result
      ((deliverStageTwo params id result index current).state.entry index) := by
  obtain ⟨_, ⟨same, notTable, notLast⟩ | ⟨entry, delivered, replaced⟩⟩ :=
    deliverStageTwo_cases params id result inside
  · rw [same]
    rcases resuming.entries index with waiting | done
    · -- Whoever waits for a guest page waits for this one, and would be served.
      have patient : ¬ (walker.entry index).AwaitsPage := by
        intro waits
        obtain ⟨page, found⟩ := LeafEntry.awaitedPage_of_awaitsPage waits
        cases orderly.waits index page found
        rw [waiting] at notTable notLast
        rcases LeafEntry.awaitedPage_eq_some.1 found with ⟨table, _⟩ | ⟨last, _⟩
        · exact notTable table
        · exact notLast last
      rw [waiting]
      exact .untouched patient
    · exact done
  · rw [replaced.here]
    rcases resuming.entries index with waiting | done
    · rw [← waiting]
      exact delivered.resumed inside
    · exact absurd delivered.awaitsPage done.not_awaitsPage

/-- Who has gone on is not disturbed by the deliveries that follow. -/
private theorem Resuming.kept
    {params : Params} {id index other : Nat} {gvpn : Word} {result : StageTwoResult}
    {current : LeafWalker} (resuming : Resuming result walker current)
    (orderly : walker.Orderly (some (id, gvpn))) (inside : index < current.entries.size)
    (done : (walker.entry other).Resumed result (current.entry other)) :
    (walker.entry other).Resumed result
      ((deliverStageTwo params id result index current).state.entry other) := by
  by_cases here : other = index
  · rw [here]
    exact resuming.here orderly inside
  · rw [deliverStageTwo_elsewhere params id result inside here]
    exact done

private theorem Resuming.deliver
    {params : Params} {id index : Nat} {gvpn : Word} {result : StageTwoResult}
    {current : LeafWalker} (resuming : Resuming result walker current)
    (orderly : walker.Orderly (some (id, gvpn))) (inside : index < current.entries.size) :
    Resuming result walker (deliverStageTwo params id result index current).state where
  delivering := resuming.delivering.deliver (by rwa [← resuming.delivering.size])
  entries := by
    intro other
    rcases resuming.entries other with waiting | done
    · by_cases here : other = index
      · rw [here]
        exact Or.inr (resuming.here orderly inside)
      · rw [deliverStageTwo_elsewhere params id result inside here]
        exact Or.inl waiting
    · exact Or.inr (resuming.kept orderly inside done)

/-- A translation that was asked for brings every entry on that waits for it, and leaves
the others alone. -/
theorem takeStageTwo_resumed
    {id : Nat} {gvpn : Word} (orderly : walker.Orderly (some (id, gvpn))) (params : Params)
    (result : StageTwoResult) (index : Nat) :
    (walker.entry index).Resumed result
      ((takeStageTwo params id result walker).state.entry index) := by
  have start : Resuming result walker { walker with stageTwoBusy := false } :=
    ⟨delivering_of_linked orderly.linked, fun _ => Or.inl rfl⟩
  have insideOf {index : Nat} (member : index ∈ walker.indices) {current : LeafWalker}
      (resuming : Resuming result walker current) : index < current.entries.size := by
    rw [resuming.delivering.size]
    exact List.mem_range.1 member
  have each (index : Nat) (member : index ∈ walker.indices) (current : LeafWalker)
      (resuming : Resuming result walker current) :
      (deliverStageTwo params id result index current).Uneventful :=
    (deliverStageTwo_cases params id result (insideOf member resuming)).1
  have step (index : Nat) (member : index ∈ walker.indices) (current : LeafWalker)
      (resuming : Resuming result walker current) :
      Resuming result walker (deliverStageTwo params id result index current).state :=
    resuming.deliver orderly (insideOf member resuming)
  rw [takeStageTwo_of_busy params id result orderly.busy]
  by_cases inside : index < walker.entries.size
  · let resumed (index : Nat) (current : LeafWalker) : Prop :=
      (walker.entry index).Resumed result (current.entry index)
    have reached : resumed index _ :=
      Outcome.forEach_reaches each step ?_ ?_ start index (List.mem_range.2 inside)
    · exact reached
    · intro index member current resuming
      exact resuming.here orderly (insideOf member resuming)
    · intro index member other current resuming done
      exact resuming.kept orderly (insideOf member resuming) done
  · have size := (Outcome.forEach_state_induction step start).delivering.size
    have outside := Nat.not_lt.1 inside
    rw [entry_of_size_le outside, entry_of_size_le (by rw [size]; exact outside)]
    exact .untouched (LeafEntry.not_awaitsPage rfl)

/-! ## Runs -/

namespace Traffic

theorem agreed_of_run (params : Params) (protection : Protection) (moves : List Move) :
    (run params protection moves (start params)).state.walker.Agreed := by
  have step (move : Move) (traffic : Traffic)
      (before : traffic.Accounted ∧ traffic.walker.Agreed) :
      (perform params protection move traffic).state.Accounted ∧
        (perform params protection move traffic).state.walker.Agreed := by
    obtain ⟨accounted, agreed⟩ := before
    refine ⟨accounted.perform params protection move, ?_⟩
    obtain ⟨orderly, _, owed⟩ := accounted
    have moved := perform_cases params protection move traffic
    generalize perform params protection move traffic = outcome at moved ⊢
    cases moved with
    | refused same =>
        rw [same]
        exact agreed
    | accept leaf ready => exact agreed.accept params leaf ready
    | tick => exact agreed.tick params protection
    | sendRead request wanted => exact agreed.fireMemory params wanted
    | answerRead image read member =>
        exact agreed.takeBlock params _ (owed.awaited read member).1
    | askStageTwo request wants chosen =>
        exact Agreed.fireStageTwo orderly params wants chosen
    | answerStageTwo result request asked =>
        have ticketIs : traffic.ticket = some (request.id, request.gvpn) := by
          rw [ticket, asked]
          rfl
        rw [ticketIs] at orderly
        exact agreed_of_patient fun index =>
          (takeStageTwo_resumed orderly params result index).not_awaitsPage
    | takeFinished index found => exact agreed.takeFinished params found
    | flush => exact agreed_of_idle (entry_flush traffic.walker)
  exact (Outcome.forEach_state_induction (fun move _ traffic before => step move traffic before)
    ⟨accounted_start params, agreed_of_idle (entry_create params)⟩).2

/-- What holds of the guest pages of a walker at every point of its runs. -/
structure PagesShared (params : Params) (traffic : Traffic) : Prop where
  /-- The walker is busy with a guest page exactly as long as an entry waits for one. -/
  busy : traffic.walker.stageTwoBusy = true ↔
    ∃ index, (traffic.walker.entry index).AwaitsPage
  /-- All who wait for a guest page are in the same state, behind the same entry. -/
  together : ∀ index other,
    (traffic.walker.entry index).AwaitsPage → (traffic.walker.entry other).AwaitsPage →
      (traffic.walker.entry other).state = (traffic.walker.entry index).state
  /-- Who waits for its table page has it asked for by an entry that waits as well. -/
  table : ∀ index owner, (traffic.walker.entry index).state = .tableWait owner →
    (traffic.walker.entry owner).state = .tableWait owner ∧
      ∃ request, traffic.page? = some request ∧ request.id = owner ∧
        request.gvpn = (traffic.walker.entry index).table
  /-- Who waits for its leaf page has it asked for by an entry that waits as well. -/
  last : ∀ index owner, (traffic.walker.entry index).state = .lastWait owner →
    (traffic.walker.entry owner).state = .lastWait owner ∧
      ∃ request, traffic.page? = some request ∧ request.id = owner ∧
        request.gvpn = (traffic.walker.entry index).lastPage
  /-- The translation is taken, brings everybody on who waits, and leaves nobody behind. -/
  answered : ∀ request, traffic.page? = some request → ∀ result,
    let outcome := takeStageTwo params request.id result traffic.walker
    outcome.fault = none ∧ outcome.state.stageTwoBusy = false ∧
      ∀ index,
        (traffic.walker.entry index).Resumed result (outcome.state.entry index) ∧
          ¬ (outcome.state.entry index).AwaitsPage

/-- Whatever is done to a leaf walker, all entries that wait for a guest page wait for the
one that is on its way, and its translation serves them all. -/
theorem pagesShared_of_run
    (params : Params) (protection : Protection) (moves : List Move) :
    PagesShared params (run params protection moves (start params)).state := by
  have agreed := agreed_of_run params protection moves
  obtain ⟨orderly, _, _⟩ := (accounted_start params).run params protection moves
  generalize (run params protection moves (start params)).state = traffic at agreed orderly
  have asked {index owner : Nat} {gvpn : Word}
      (waits : (traffic.walker.entry index).awaitedPage? = some (owner, gvpn)) :
      (traffic.walker.entry owner).state = (traffic.walker.entry index).state ∧
        ∃ request, traffic.page? = some request ∧ request.id = owner ∧
          request.gvpn = gvpn := by
    have ticketIs := orderly.waits index _ waits
    have ownerWaits := orderly.asked _ ticketIs
    refine ⟨agreed index owner (LeafEntry.awaitsPage_of_awaitedPage waits)
      (LeafEntry.awaitsPage_of_awaitedPage ownerWaits), ?_⟩
    obtain ⟨request, found, same⟩ := Option.map_eq_some_iff.1 ticketIs
    cases same
    exact ⟨request, found, rfl, rfl⟩
  refine ⟨?_, agreed, ?_, ?_, ?_⟩
  · rw [orderly.busy, Option.isSome_iff_exists]
    constructor
    · rintro ⟨page, ticketIs⟩
      exact ⟨page.1, LeafEntry.awaitsPage_of_awaitedPage (orderly.asked page ticketIs)⟩
    · rintro ⟨index, waits⟩
      obtain ⟨page, found⟩ := LeafEntry.awaitedPage_of_awaitsPage waits
      exact ⟨page, orderly.waits index page found⟩
  · intro index owner waits
    have found := asked (LeafEntry.awaitedPage_eq_some.2 (Or.inl ⟨waits, rfl⟩))
    rw [waits] at found
    exact found
  · intro index owner waits
    have found := asked (LeafEntry.awaitedPage_eq_some.2 (Or.inr ⟨waits, rfl⟩))
    rw [waits] at found
    exact found
  · intro request found result
    have ticketIs : traffic.ticket = some (request.id, request.gvpn) := by
      rw [ticket, found]
      rfl
    rw [ticketIs] at orderly
    have busy := (orderly.takeStageTwo params result).busy
    refine ⟨(takeStageTwo_uneventful params request.id result orderly.linked
      orderly.busy).running, busy, fun index => ?_⟩
    have resumed := takeStageTwo_resumed orderly params result index
    exact ⟨resumed, resumed.not_awaitsPage⟩

/-- Two nested lookups of different sectors share the translation of their table page. -/
example :
    let leaf (vpn : Word) : LeafRequest :=
      { request := { vpn := vpn, mode := .nested }, ppn := 3 }
    let traffic :=
      (run .small .allowAll [.accept (leaf 8), .accept (leaf 16), .askStageTwo]
        (start .small)).state
    (traffic.walker.entry 0).state = .tableWait 0 ∧
      (traffic.walker.entry 1).state = .tableWait 0 := by
  decide +kernel

end Traffic

end LeafWalker

end PageWalk
