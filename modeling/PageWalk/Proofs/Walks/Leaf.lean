import PageWalk.Proofs.LeafWalker.Links
import PageWalk.Proofs.Walks.Upper

/-!
# Leaf walks on track

Under one setting every busy entry of the leaf walker walks for the leaf table that the
plain walk of its lookup comes to, the blocks that entries share hold the leaves of their
sectors, and what the walker reads brings true lines. Finished entries answer their lookups
if it is `clear` that no address is protected.
-/

namespace PageWalk

namespace LeafEntry

/-- The page that the leaf table is read from is known. -/
def Hosted (setting : Setting) (entry : LeafEntry) : Prop :=
  (setting.tree entry.request.mode).page? entry.table =
    some (if entry.request.mode = .nested then entry.host else entry.table)

/-- The nested walk has found a leaf. -/
structure AtLeaf (setting : Setting) (entry : LeafEntry) (block : Block) : Prop where
  nested : entry.request.mode = .nested
  read : entry.block = some block
  ends : (setting.tree .nested).ending? ⟨leafAt block entry.request.vpn⟩ leafLevel = some .leaf
  page : entry.lastPage = (⟨leafAt block entry.request.vpn⟩ : Pte).ppn

/-- The ways in which an entry is finished. -/
inductive Ended (setting : Setting) (entry : LeafEntry) : Prop
  /-- The leaf is there, and the guest page of a good nested one is translated. -/
  | block (block : Block) (read : entry.block = some block)
      (last : entry.request.mode = .nested →
        (setting.tree .nested).ending? ⟨leafAt block entry.request.vpn⟩ leafLevel =
            some .leaf →
          ∃ result, entry.stageTwo = some result ∧
            result.Equals
              (setting.guestWalk (⟨leafAt block entry.request.vpn⟩ : Pte).ppn))
  /-- The table page has no translation. -/
  | unmapped (nested : entry.request.mode = .nested) (unread : entry.block = none)
      (result : StageTwoResult) (shown : entry.stageTwo = some result)
      (equals : result.Equals (setting.guestWalk entry.table)) (fault : result.fault = true)

/-- What the state of an entry says about its walk. -/
def Poised (setting : Setting) (clear : Prop) (entry : LeafEntry) : Prop :=
  match entry.state with
  | .idle | .memoryWait _ => True
  | .tableRequest | .tableWait _ => entry.request.mode = .nested ∧ entry.block = none
  | .addressCheck | .memoryRequest => entry.Hosted setting
  | .lastRequest | .lastWait _ => ∃ block, entry.AtLeaf setting block
  | .finished => clear → entry.Ended setting

/-- The walk has come to its leaf table, and its block holds the leaves of its sector. -/
structure Begun (setting : Setting) (clear : Prop) (entry : LeafEntry) : Prop where
  first : entry.request.mode ≠ .stageTwo
  reached : (setting.tree entry.request.mode).tableAt? entry.request.vpn leafLevel =
    some entry.table
  allowed : clear → entry.denied = false
  holds : ∀ block, entry.block = some block →
    setting.Holds entry.request.mode entry.request.vpn block

/-- An entry is idle, or it is on track. -/
structure OnTrack (setting : Setting) (clear : Prop) (entry : LeafEntry) : Prop where
  begun : entry.state ≠ .idle → entry.Begun setting clear
  poised : entry.Poised setting clear

variable {setting : Setting} {clear : Prop} {entry : LeafEntry}

theorem onTrack_of_idle (idle : entry.state = .idle) : entry.OnTrack setting clear := by
  refine ⟨fun busy => absurd idle busy, ?_⟩
  unfold Poised
  rw [idle]
  trivial

theorem OnTrack.of_begun
    (begun : entry.Begun setting clear) (poised : entry.Poised setting clear) :
    entry.OnTrack setting clear :=
  ⟨fun _ => begun, poised⟩

/-- Only nested walks read a leaf table from another page. -/
theorem hosted_of_plain (plain : entry.request.mode ≠ .nested) : entry.Hosted setting := by
  unfold Hosted
  rw [setting.tree_page_of_ne_nested plain, if_neg plain]

/-- A block that holds the leaves of its sector brings an entry on. -/
theorem withBlock_onTrack
    {params : Params} (bits : params.addressBits = setting.addressBits) {block : Block}
    (begun : entry.Begun setting clear)
    (holds : setting.Holds entry.request.mode entry.request.vpn block) :
    (entry.withBlock params block).OnTrack setting clear := by
  have outside :=
    setting.tree_outside entry.request.mode ⟨leafAt block entry.request.vpn⟩
  rw [← bits] at outside
  have held (other : Block) (same : some block = some other) :
      setting.Holds entry.request.mode entry.request.vpn other := by
    cases same
    exact holds
  unfold withBlock
  dsimp only
  split
  · rename_i good
    simp only [Bool.and_eq_true, decide_eq_true_eq, Bool.not_eq_true', Bool.or_eq_false_iff]
      at good
    obtain ⟨nested, sound, inside⟩ := good
    refine .of_begun ⟨begun.first, begun.reached, begun.allowed, held⟩ ?_
    refine ⟨block, nested, rfl, ?_, rfl⟩
    rw [nested] at outside inside
    refine TableTree.ending_of_leaf (outside.trans inside) sound ?_
    -- A good leaf entry at the last level is a leaf.
    by_cases leaf : (⟨leafAt block entry.request.vpn⟩ : Pte).isLeaf = true
    · exact leaf
    · have pointer := TableTree.ending_eq_none_iff.2
        ⟨outside.trans inside, sound, Bool.eq_false_iff.2 leaf⟩
      exact absurd pointer (TableTree.ending_leafLevel _)
  · rename_i ended
    refine .of_begun ⟨begun.first, begun.reached, begun.allowed, held⟩ ?_
    refine fun _ => .block block rfl fun nested leaf => ?_
    have mode : entry.request.mode = .nested := nested
    rw [mode] at outside ended
    rcases TableTree.ending_spec leaf with ⟨none, _⟩ | ⟨none, _⟩ | ⟨_, inside, sound, _⟩
    · cases none
    · cases none
    · refine absurd ?_ ended
      rw [← outside, inside, sound]
      rfl

/-- An entry that has read its leaf answers with it. -/
private theorem Begun.answers_of_block
    (begun : entry.Begun setting clear) (unprotected : clear) {params : Params}
    (bits : params.addressBits = setting.addressBits) (registers : Registers) {block : Block}
    (read : entry.block = some block)
    (last : entry.request.mode = .nested →
      (setting.tree .nested).ending? ⟨leafAt block entry.request.vpn⟩ leafLevel = some .leaf →
        ∃ result, entry.stageTwo = some result ∧
          result.Equals (setting.guestWalk (⟨leafAt block entry.request.vpn⟩ : Pte).ppn)) :
    setting.Answers (entry.response params registers) := by
  have request : (entry.response params registers).request = entry.request := rfl
  have selected : (entry.response params registers).stageOne.selected =
      StageOneResult.slotOfLeaf entry.request.mode params.addressBits false
        ⟨leafAt block entry.request.vpn⟩ := by
    unfold response
    simp only [read, begun.allowed unprotected]
    exact StageOneResult.selected_ofBlock _ _ _ _ _ _ _
  have level : (entry.response params registers).stageOne.level = leafLevel := by
    unfold response
    simp only [read]
    rfl
  have found := begun.holds block read entry.request.vpn rfl
  cases ends : (setting.tree entry.request.mode).ending?
      ⟨leafAt block entry.request.vpn⟩ leafLevel with
  | none => exact absurd ends (TableTree.ending_leafLevel _)
  | some ending =>
      obtain ⟨same, here, pte⟩ := Setting.walk_of_pte (Nat.le_refl _) found ends
      refine ⟨?_, fun stageTwo => absurd stageTwo begun.first, ?_, ?_,
        fun _ cached => (by cases cached)⟩
      · intro _
        have shows := shownBy_slot (Nat.le_refl _) found ends fun _ => rfl
        rw [← slotOfLeaf_eq ends, ← bits] at shows
        rw [selected, level]
        exact shows
      · intro nested unmapped
        rw [request] at nested unmapped
        rw [nested] at same
        rw [same] at unmapped
        exact absurd unmapped (TableTree.ne_unmapped_of_ending ends)
      · intro nested _ page translated
        rw [request] at nested translated
        rw [nested] at same here pte ends
        unfold WalkEnd.page? at translated
        rw [same, here, pte] at translated
        cases ending with
        | leaf =>
            cases translated
            exact last nested ends
        | pageFault | accessFault | unmapped => cases translated

/-- An entry whose table page has no translation answers with the fault. -/
private theorem Begun.answers_of_unmapped
    (begun : entry.Begun setting clear) (unprotected : clear) (params : Params)
    (registers : Registers)
    (nested : entry.request.mode = .nested) (unread : entry.block = none)
    {result : StageTwoResult} (shown : entry.stageTwo = some result)
    (equals : result.Equals (setting.guestWalk entry.table)) (fault : result.fault = true) :
    setting.Answers (entry.response params registers) := by
  have request : (entry.response params registers).request = entry.request := rfl
  have second : (entry.response params registers).stageTwo = entry.stageTwo := rfl
  have missing : (setting.tree .nested).page? entry.table = none := by
    rw [setting.tree_page_nested, equals.page, if_pos fault]
  have reached := begun.reached
  rw [nested] at reached
  have walked : setting.walk .nested entry.request.vpn =
      ⟨.unmapped, leafLevel, entry.table, {}⟩ :=
    TableTree.walk_of_unmapped (Nat.le_refl _) reached missing
  have stageOne : (entry.response params registers).stageOne =
      StageOneResult.ofPte entry.request.vpn {} leafLevel false false
        (registers.asid entry.request.mode) registers.vmid := by
    unfold response
    simp only [unread, begun.allowed unprotected]
  refine ⟨?_, fun stageTwo => absurd stageTwo begun.first, ?_, ?_,
    fun _ cached => (by cases cached)⟩
  · intro _
    rw [stageOne, request, nested, walked, StageOneResult.selected_ofPte]
    exact ⟨rfl, rfl, rfl, rfl, fun leaf => (by cases leaf), fun leaf => (by cases leaf)⟩
  · intro _ _
    rw [second, stageOne, request, walked]
    refine ⟨⟨result, shown, equals, fault⟩, ?_⟩
    intro slot member
    simp only [StageOneResult.ofPte, Vector.toList_replicate] at member
    rw [List.eq_of_mem_replicate member]
    rfl
  · intro _ _ page translated
    rw [request, walked] at translated
    cases translated

/-- A finished entry answers its lookup. -/
theorem OnTrack.answers
    (track : entry.OnTrack setting clear) (unprotected : clear)
    (finished : entry.state = .finished) {params : Params}
    (bits : params.addressBits = setting.addressBits) (registers : Registers) :
    setting.Answers (entry.response params registers) := by
  have begun := track.begun (by rw [finished]; exact LeafState.noConfusion)
  have ended : entry.Ended setting := by
    have poised := track.poised
    unfold Poised at poised
    rw [finished] at poised
    exact poised unprotected
  cases ended with
  | block block read last => exact begun.answers_of_block unprotected bits registers read last
  | unmapped nested unread result shown equals fault =>
      exact begun.answers_of_unmapped unprotected params registers nested unread shown equals
        fault

end LeafEntry

/-! ## The walker -/

/-- The lookup has come to the table that its leaf walk is asked for. -/
def LeafRequest.Reached (setting : Setting) (leaf : LeafRequest) : Prop :=
  leaf.request.mode ≠ .stageTwo ∧
    (setting.tree leaf.request.mode).tableAt? leaf.request.vpn leafLevel = some leaf.ppn

def LeafWalker.OnTrack (setting : Setting) (clear : Prop) (walker : LeafWalker) : Prop :=
  ∀ index, (walker.entry index).OnTrack setting clear

namespace LeafWalker

variable {setting : Setting} {clear : Prop} {walker after : LeafWalker}

theorem onTrack_of_idle (idle : ∀ index, walker.entry index = {}) :
    walker.OnTrack setting clear := by
  intro index
  rw [idle]
  exact LeafEntry.onTrack_of_idle rfl

theorem Replaced.onTrack
    {index : Nat} {entry : LeafEntry} (replaced : Replaced walker after index entry)
    (track : walker.OnTrack setting clear) (here : entry.OnTrack setting clear) :
    after.OnTrack setting clear := by
  intro other
  by_cases same : other = index
  · rw [same, replaced.here]
    exact here
  · rw [replaced.elsewhere other same]
    exact track other

theorem Changed.onTrack
    {change : LeafEntry → LeafEntry} (changed : Changed walker after change)
    (each : ∀ index, (change (walker.entry index)).OnTrack setting clear) :
    after.OnTrack setting clear := by
  intro index
  rw [changed.entry]
  exact each index

/-- A placed entry is on track if its table page is known, unless a sibling has a
read. -/
theorem Placed.onTrack
    {params : Params} (bits : params.addressBits = setting.addressBits) {index : Nat}
    {entry : LeafEntry} (placed : Placed params walker index entry)
    (others : ∀ other, other ≠ index → (walker.entry other).OnTrack setting clear)
    (begun : (walker.entry index).Begun setting clear)
    (hosted : walker.sibling? index = none → (walker.entry index).Hosted setting) :
    entry.OnTrack setting clear := by
  cases placed with
  | alone none =>
      exact .of_begun ⟨begun.first, begun.reached, begun.allowed, begun.holds⟩ (hosted none)
  | copied sibling block found holds =>
      have sector := ((others sibling found.other).begun found.busy).holds block holds
      obtain ⟨vpn, mode⟩ := (Request.sharesSector_iff _ _).1 found.shares
      rw [mode] at sector
      exact LeafEntry.withBlock_onTrack bits begun (sector.of_sectorTag vpn.symm)
  | joined sibling owner =>
      exact .of_begun ⟨begun.first, begun.reached, begun.allowed, begun.holds⟩ trivial

theorem accept_onTrack
    {params : Params} (bits : params.addressBits = setting.addressBits) {leaf : LeafRequest}
    (reached : leaf.Reached setting) (ready : walker.ready = true)
    (track : walker.OnTrack setting clear) :
    (accept params leaf walker).state.OnTrack setting clear := by
  have begun (state : LeafState) :
      LeafEntry.Begun setting clear { leaf.claim with state := state } :=
    ⟨reached.1, reached.2, fun _ => rfl, fun _ read => (by cases read)⟩
  obtain ⟨index, _, _, ⟨replaced, _⟩ | ⟨entry, admitted, replaced, _⟩⟩ :=
    accept_cases params leaf ready
  · exact replaced.onTrack track (LeafEntry.onTrack_of_idle rfl)
  · refine replaced.onTrack track ?_
    cases admitted with
    | table nested => exact .of_begun (begun .tableRequest) ⟨nested, rfl⟩
    | placed placed shared =>
        have here := entry_setEntry_self replaced.inside leaf.claim
        refine placed.onTrack bits ?_ ?_ ?_
        · intro other different
          rw [entry_setEntry_of_ne walker different]
          exact track other
        · rw [here]
          exact begun .addressCheck
        · intro alone
          rw [here]
          refine LeafEntry.hosted_of_plain fun nested => ?_
          exact shared nested alone

/-! ## Memory -/

/-- The block that the walker asks for holds the leaves of its lookup. -/
theorem memoryRequest_holds
    {memory : Memory} (words : setting.word = memory.readWord) {request : MemoryRequest}
    (wanted : walker.memoryRequest? = some request) (track : walker.OnTrack setting clear) :
    setting.Holds (walker.entry request.id).request.mode (walker.entry request.id).request.vpn
      (memory.readBlock request.address) := by
  obtain ⟨address, asks⟩ := memoryRequest_spec wanted
  have begun := (track request.id).begun (by rw [asks]; exact LeafState.noConfusion)
  have hosted : (walker.entry request.id).Hosted setting := by
    have poised := (track request.id).poised
    unfold LeafEntry.Poised at poised
    rw [asks] at poised
    exact poised
  rw [address]
  exact Setting.holds_of_read words begun.reached hosted

theorem fireMemory_onTrack
    (params : Params) {request : MemoryRequest}
    (wanted : walker.memoryRequest? = some request) (track : walker.OnTrack setting clear) :
    (fireMemory params walker).state.OnTrack setting clear := by
  refine (fireMemory_spec params wanted).1.onTrack fun index => ?_
  have here := track index
  unfold joinRead
  by_cases joins : joinsRead (walker.entry request.id).request (walker.entry index) = true
  · rw [if_pos joins]
    refine ⟨fun _ => ?_, trivial⟩
    have busy : (walker.entry index).state ≠ .idle := by
      intro idle
      simp [joinsRead, idle] at joins
    obtain ⟨first, reached, allowed, holds⟩ := here.begun busy
    exact ⟨first, reached, allowed, holds⟩
  · rw [if_neg joins]
    exact here

theorem takeBlock_onTrack
    {params : Params} (bits : params.addressBits = setting.addressBits) {id : Nat}
    {block : Block} (linked : walker.Linked)
    (waits : (walker.entry id).state = .memoryWait id)
    (holds : setting.Holds (walker.entry id).request.mode (walker.entry id).request.vpn block)
    (track : walker.OnTrack setting clear) :
    (takeBlock params id block walker).state.OnTrack setting clear := by
  refine (takeBlock_spec params block waits).1.onTrack fun index => ?_
  have here := track index
  unfold takeRead
  by_cases shares : (walker.entry index).state = .memoryWait id
  · obtain ⟨_, sector⟩ := linked index id shares
    obtain ⟨vpn, mode⟩ := (Request.sharesSector_iff _ _).1 sector
    rw [← mode] at holds
    rw [shares, beq_self_eq_true, if_pos rfl]
    exact LeafEntry.withBlock_onTrack bits
      (here.begun (by rw [shares]; exact LeafState.noConfusion)) (holds.of_sectorTag vpn)
  · rw [if_neg (by simpa using shares)]
    exact here

/-- What the walker reads brings true lines. -/
theorem refill_brings
    {params : Params} (bits : params.addressBits = setting.addressBits) {id : Nat}
    {block : Block}
    (holds : setting.Holds (walker.entry id).request.mode (walker.entry id).request.vpn block) :
    ((walker.entry id).refill block).Brings setting.facts params setting.registers := by
  have leaf := holds (walker.entry id).request.vpn rfl
  refine Setting.brings bits leaf (Nat.le_refl _) ?_ _
  exact fun _ => holds

/-! ## The second stage -/

theorem fireStageTwo_onTrack
    (params : Params) {request : StageTwoRequest} (wants : walker.wantsStageTwo = true)
    (chosen : walker.stageTwoRequest? = some request) (track : walker.OnTrack setting clear) :
    (fireStageTwo params walker).state.OnTrack setting clear := by
  have moved {entry : LeafEntry} {state : LeafState} (here : entry.OnTrack setting clear)
      (busy : entry.state ≠ .idle) (poised : { entry with state := state }.Poised setting clear) :
      LeafEntry.OnTrack setting clear { entry with state := state } := by
    obtain ⟨first, reached, allowed, holds⟩ := here.begun busy
    exact .of_begun ⟨first, reached, allowed, holds⟩ poised
  obtain ⟨_, _, _, _, _, ⟨changed, _⟩ | ⟨changed, _⟩⟩ := fireStageTwo_cases params wants chosen
  · refine changed.onTrack fun index => ?_
    have here := track index
    unfold joinTable
    split
    · rename_i asks
      have state : (walker.entry index).state = .tableRequest := by
        simp only [Bool.and_eq_true, beq_iff_eq] at asks
        exact asks.1
      have poised := here.poised
      unfold LeafEntry.Poised at poised
      rw [state] at poised
      exact moved here (by rw [state]; exact LeafState.noConfusion) poised
    · exact here
  · refine changed.onTrack fun index => ?_
    have here := track index
    unfold joinLast
    split
    · rename_i asks
      have state : (walker.entry index).state = .lastRequest := by
        simp only [Bool.and_eq_true, beq_iff_eq] at asks
        exact asks.1
      have poised := here.poised
      unfold LeafEntry.Poised at poised
      rw [state] at poised
      obtain ⟨block, nested, read, ends, page⟩ := poised
      exact moved here (by rw [state]; exact LeafState.noConfusion)
        ⟨block, nested, read, ends, page⟩
    · exact here

/-- A translation for the page that an entry waits for brings the entry on. -/
private theorem Delivered.onTrack
    {params : Params} (bits : params.addressBits = setting.addressBits) {id index : Nat}
    {gvpn : Word} {result : StageTwoResult} {entry : LeafEntry}
    (delivered : Delivered params id result walker index entry)
    (inside : index < walker.entries.size)
    (awaited : ∀ page, (walker.entry index).awaitedPage? = some page → page = (id, gvpn))
    (trusted : result.Trusted setting clear gvpn) (track : walker.OnTrack setting clear) :
    entry.OnTrack setting clear := by
  have poised := (track index).poised
  unfold LeafEntry.Poised at poised
  unfold LeafEntry.awaitedPage? at awaited
  cases delivered with
  | unmapped waits fault =>
      obtain ⟨first, reached, allowed, holds⟩ :=
        (track index).begun (by rw [waits]; exact LeafState.noConfusion)
      rw [waits] at poised awaited
      obtain ⟨nested, unread⟩ := poised
      cases awaited _ rfl
      exact .of_begun ⟨first, reached, allowed, holds⟩
        fun unprotected =>
          .unmapped nested unread result rfl (trusted (Or.inl unprotected)) fault
  | last waits =>
      obtain ⟨first, reached, allowed, holds⟩ :=
        (track index).begun (by rw [waits]; exact LeafState.noConfusion)
      rw [waits] at poised awaited
      obtain ⟨block, nested, read, ends, page⟩ := poised
      cases awaited _ rfl
      rw [page] at trusted
      exact .of_begun ⟨first, reached, allowed, holds⟩ fun unprotected =>
        .block block read fun _ _ => ⟨result, rfl, trusted (Or.inl unprotected)⟩
  | table waits mapped placed =>
      obtain ⟨first, reached, allowed, holds⟩ :=
        (track index).begun (by rw [waits]; exact LeafState.noConfusion)
      rw [waits] at poised awaited
      obtain ⟨nested, unread⟩ := poised
      cases awaited _ rfl
      have here := entry_setEntry_self inside
        { walker.entry index with
          host := result.hostPage (walker.entry index).table
          state := .addressCheck }
      refine placed.onTrack bits ?_ ?_ ?_
      · intro other different
        rw [entry_setEntry_of_ne walker different]
        exact track other
      · rw [here]
        exact ⟨first, reached, allowed, holds⟩
      · intro _
        rw [here]
        unfold LeafEntry.Hosted
        dsimp only
        rw [nested, setting.tree_page_nested, (trusted (Or.inr mapped)).page, mapped]
        rfl

theorem takeStageTwo_onTrack
    {params : Params} (bits : params.addressBits = setting.addressBits) {id : Nat}
    {gvpn : Word} {result : StageTwoResult} (orderly : walker.Orderly (some (id, gvpn)))
    (trusted : result.Trusted setting clear gvpn) (track : walker.OnTrack setting clear) :
    (takeStageTwo params id result walker).state.OnTrack setting clear := by
  refine takeStageTwo_induction params (OnTrack setting clear) orderly.linked orderly.busy ?_ track
  intro index current after entry delivering here delivered replaced
  refine replaced.onTrack here (delivered.onTrack bits replaced.inside ?_ trusted here)
  -- While the entries are served one by one, the waits that are left are old ones.
  intro page waits
  have asked := orderly.waits index page (delivering.waits index page waits)
  exact (Option.some.inj asked).symm

/-! ## Finished entries and steps -/

theorem takeFinished_onTrack
    (params : Params) {index : Nat} (found : walker.finishedIndex? = some index)
    (track : walker.OnTrack setting clear) :
    (takeFinished params walker).state.OnTrack setting clear :=
  (takeFinished_spec params found).1.onTrack track (LeafEntry.onTrack_of_idle rfl)

private theorem Ticked.onTrack
    {protection : Protection}
    (allows : clear → ∀ address, (protection address).accessFault = false)
    {entry next : LeafEntry} (ticked : Ticked protection entry next)
    (track : entry.OnTrack setting clear) : next.OnTrack setting clear := by
  cases ticked with
  | denied watchdog due fault =>
      have barred (unprotected : clear) : False := by
        rw [allows unprotected] at fault
        cases fault
      obtain ⟨first, reached, _, holds⟩ :=
        track.begun (by rw [due]; exact LeafState.noConfusion)
      exact .of_begun ⟨first, reached, fun unprotected => (barred unprotected).elim, holds⟩
        fun unprotected => (barred unprotected).elim
  | passed watchdog due =>
      obtain ⟨first, reached, allowed, holds⟩ :=
        track.begun (by rw [due]; exact LeafState.noConfusion)
      have poised := track.poised
      unfold LeafEntry.Poised at poised
      rw [due] at poised
      exact .of_begun ⟨first, reached, allowed, holds⟩ poised
  | unchecked watchdog notDue =>
      refine ⟨fun busy => ?_, ?_⟩
      · obtain ⟨first, reached, allowed, holds⟩ := track.begun busy
        exact ⟨first, reached, allowed, holds⟩
      · have poised := track.poised
        unfold LeafEntry.Poised at poised ⊢
        dsimp only
        cases state : entry.state
        all_goals
          rw [state] at poised
          dsimp only at poised ⊢
        case lastRequest | lastWait =>
          obtain ⟨block, nested, read, ends, page⟩ := poised
          exact ⟨block, nested, read, ends, page⟩
        case finished =>
          intro unprotected
          cases poised unprotected with
          | block block read last => exact .block block read last
          | unmapped nested unread result shown equals fault =>
              exact .unmapped nested unread result shown equals fault
        all_goals exact poised

theorem tick_onTrack
    (params : Params) {protection : Protection}
    (allows : clear → ∀ address, (protection address).accessFault = false)
    (track : walker.OnTrack setting clear) :
    (tick params protection walker).state.OnTrack setting clear := by
  refine (tick_induction params (OnTrack setting clear) ?_ (fun same _ => same) track).1
  intro index current after entry before ticked replaced
  exact replaced.onTrack before (ticked.onTrack allows (before index))

end LeafWalker

end PageWalk
