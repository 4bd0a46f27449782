import PageWalk.Proofs.UpperWalker
import PageWalk.Proofs.Walks.StageTwo

/-!
# Upper walks on track

Under one setting the upper walker is always where the plain walk of its lookup comes along.
The leaf walks that it hands on start at the leaf table, and what it reads brings true
lines. Its responses answer their lookups if it is `clear` that no address is protected.
-/

namespace PageWalk

/-- The walk of a first stage is where the plain walk of its lookup comes along. -/
def UpperWalk.OnTrack (setting : Setting) (walk : UpperWalk) : Prop :=
  walk.request.mode ≠ .stageTwo ∧
    (setting.tree walk.request.mode).tableAt? walk.request.vpn walk.level = some walk.table

/-- The page that the table is read from is known. -/
def UpperWalk.Hosted (setting : Setting) (walk : UpperWalk) : Prop :=
  (setting.tree walk.request.mode).page? walk.table = some walk.host

/-- The walk has come to a superpage. -/
def UpperWalk.AtLeaf (setting : Setting) (walk : UpperWalk) : Prop :=
  (setting.tree walk.request.mode).pteAt? walk.request.vpn walk.level = some walk.pte ∧
    (setting.tree walk.request.mode).ending? walk.pte walk.level = some .leaf

def UpperState.OnTrack (setting : Setting) (clear : Prop) : UpperState → Prop
  | .idle => True
  | .tableRequest walk | .tableWait walk =>
      (walk.request.mode = .stageTwo ∧ walk.table = walk.request.vpn) ∨
        (walk.request.mode = .nested ∧ walk.OnTrack setting)
  | .addressCheck walk => walk.OnTrack setting ∧ walk.Hosted setting
  | .memoryRequest walk address | .memoryWait walk address =>
      (walk.OnTrack setting ∧ walk.Hosted setting) ∧ address = walk.address
  | .lastRequest walk | .lastWait walk =>
      walk.request.mode = .nested ∧ walk.AtLeaf setting
  | .dispatch walk =>
      walk.request.mode ≠ .stageTwo ∧
        (setting.tree walk.request.mode).tableAt? walk.request.vpn leafLevel =
          some walk.pte.ppn
  | .respond response => clear → setting.Answers response

/-- The lookup is walked through the second stage alone, or it resumes where it has
come. -/
def UpperRequest.Hinted (setting : Setting) (request : UpperRequest) : Prop :=
  request.request.mode ≠ .stageTwo → request.rootHit = true →
    (setting.tree request.request.mode).tableAt? request.request.vpn 1 = some request.ppn

/-! ## Translations of table pages -/

/-- A result that equals the walk of a guest page decides whether it has a page. -/
theorem StageTwoResult.Equals.page
    {setting : Setting} {result : StageTwoResult} {gvpn : Word}
    (equals : result.Equals (setting.guestWalk gvpn)) :
    (setting.guestWalk gvpn).page? gvpn =
      if result.fault then none else some (result.hostPage gvpn) := by
  have reaches := setting.guestWalk_ending gvpn
  unfold WalkEnd.page? StageTwoResult.fault StageTwoResult.hostPage
  rw [equals.pageFault, equals.accessFault, equals.ppn, equals.level]
  cases ending : (setting.guestWalk gvpn).ending with
  | leaf => rfl
  | pageFault => rfl
  | accessFault => rfl
  | unmapped => exact absurd ending reaches

namespace UpperWalker

variable {setting : Setting} {clear : Prop} {walker : UpperWalker}

private theorem guest_of_first
    {mode : Mode} (first : mode ≠ .stageTwo) : (setting.tree mode).guest = false := by
  rw [setting.tree_of_ne_stageTwo first]
  rfl

private theorem tableAt_root
    {mode : Mode} (first : mode ≠ .stageTwo) (vpn : Word) :
    (setting.tree mode).tableAt? vpn 0 =
      some (setting.registers.stageOneRoot mode).ppn := by
  have covered : (setting.tree mode).covers vpn = true := by
    unfold TableTree.covers
    rw [guest_of_first first]
    rfl
  rw [TableTree.tableAt_zero covered, setting.tree_of_ne_stageTwo first]
  rfl

/-- A walk that has come to a table goes on in a state on track. -/
private theorem enterTable_onTrack
    {walk : UpperWalk} (track : walk.OnTrack setting) (host : walk.host = walk.table) :
    walk.enterTable.OnTrack setting clear := by
  rcases enterTable_cases walk with ⟨nested, state⟩ | ⟨plain, state⟩
  · rw [state]
    exact Or.inr ⟨nested, track⟩
  · rw [state]
    refine ⟨track, ?_⟩
    unfold UpperWalk.Hosted
    rw [setting.tree_page_of_ne_nested plain, host]

theorem accept_onTrack
    (params : Params) {request : UpperRequest} (hinted : request.Hinted setting)
    (ready : walker.ready = true) :
    (accept params setting.registers request walker).state.state.OnTrack setting clear := by
  have same := start_request setting.registers request
  obtain ⟨_, ⟨second, state⟩ | ⟨first, state⟩⟩ :=
    accept_spec params setting.registers request ready
  · rw [state]
    rw [same] at second
    refine Or.inl ⟨by rw [same]; exact second, ?_⟩
    unfold UpperWalk.start
    dsimp only
    rw [if_pos second]
  · rw [state]
    rw [same] at first
    unfold UpperWalk.start
    dsimp only
    rw [if_neg first]
    by_cases root : request.rootHit = true
    · rw [if_pos root]
      exact enterTable_onTrack ⟨first, hinted first root⟩ rfl
    · rw [if_neg root]
      exact enterTable_onTrack ⟨first, tableAt_root first _⟩ rfl

/-! ## Responses -/

/-- The response that a walk of a first stage makes at its end answers its lookup. -/
private theorem answers_of_ending
    (walk : UpperWalk) {ending : WalkEnding} (bound : walk.level ≤ 1)
    (first : walk.request.mode ≠ .stageTwo)
    (found : (setting.tree walk.request.mode).pteAt? walk.request.vpn walk.level =
      some walk.pte)
    (ends : (setting.tree walk.request.mode).ending? walk.pte walk.level = some ending)
    {stageTwo : Option StageTwoResult}
    (last : walk.request.mode = .nested → ending = .leaf →
      ∃ result, stageTwo = some result ∧
        result.Equals (setting.guestWalk walk.lastPage))
    (registers : Registers) :
    setting.Answers
      (walk.response registers (ending == .pageFault) (ending == .accessFault) stageTwo) := by
  have level : walk.level ≤ leafLevel := Nat.le_succ_of_le bound
  obtain ⟨ended, here, entry⟩ := Setting.walk_of_pte level found ends
  have other := TableTree.ne_unmapped_of_ending ends
  refine ⟨?_, fun second => absurd second first, ?_, ?_, fun _ cached => (by cases cached)⟩
  · intro _
    have shown : ending = .leaf →
        (if (ending == .accessFault) = true then ({} : Pte) else walk.pte) = walk.pte := by
      intro leaf
      rw [leaf]
      rfl
    have slot := slotOfPte_eq ends shown
    have shows := shownBy_slot level found ends shown
    rw [← slot] at shows
    have selected :
        (walk.response registers (ending == .pageFault) (ending == .accessFault)
          stageTwo).stageOne.selected =
        StageOneResult.slotOfPte
          (if (ending == .accessFault) = true then ({} : Pte) else walk.pte)
          (ending == .pageFault) (ending == .accessFault) :=
      StageOneResult.selected_ofPte _ _ _ _ _ _ _
    rw [selected]
    exact shows
  · intro nested unmapped
    have mode : walk.request.mode = .nested := nested
    rw [mode] at ended
    exact absurd (ended.symm.trans unmapped) other
  · intro nested _ page found
    have mode : walk.request.mode = .nested := nested
    rw [mode] at ended here entry
    have request : (walk.response registers (ending == .pageFault) (ending == .accessFault)
      stageTwo).request = walk.request := rfl
    unfold WalkEnd.page? at found
    rw [request, ended, here, entry] at found
    cases ending with
    | leaf =>
        cases found
        exact last mode rfl
    | pageFault | accessFault | unmapped => cases found

/-- The translation of a guest page answers the lookup of the second stage for it. -/
private theorem answers_of_guestPage
    {request : Request} {result : StageTwoResult} (second : request.mode = .stageTwo)
    (equals : result.Equals (setting.guestWalk request.vpn)) :
    setting.Answers { request := request, stageTwo := some result } := by
  have other {mode : Mode} (different : mode ≠ .stageTwo) : request.mode ≠ mode := by
    rw [second]
    exact different.symm
  exact
    { first := fun first => absurd second first
      second := fun _ => ⟨result, rfl, equals⟩
      unmapped := fun nested => absurd nested (other Mode.noConfusion)
      leaf := fun nested => absurd nested (other Mode.noConfusion)
      cached := fun first => absurd second first }

/-- The response to a walk whose table page has no translation answers its lookup. -/
private theorem answers_of_guestFault
    {walk : UpperWalk} (bound : walk.level ≤ 1) (nested : walk.request.mode = .nested)
    (track : walk.OnTrack setting) {result : StageTwoResult}
    (equals : result.Equals (setting.guestWalk walk.table)) (fault : result.fault = true)
    (registers : Registers) :
    setting.Answers
      { walk.response registers false false (some result) with
        stageOne :=
          (walk.response registers false false (some result)).stageOne.invalidated } := by
  have missing : (setting.tree .nested).page? walk.table = none := by
    rw [setting.tree_page_nested, equals.page, if_pos fault]
  have reached := track.2
  rw [nested] at reached
  have walked : setting.walk .nested walk.request.vpn =
      ⟨.unmapped, walk.level, walk.table, {}⟩ :=
    TableTree.walk_of_unmapped (Nat.le_succ_of_le bound) reached missing
  refine ⟨?_, fun second => ?_, ?_, ?_, fun _ cached => (by cases cached)⟩
  · intro _
    change (setting.walk walk.request.mode walk.request.vpn).ShownBy walk.level _
    rw [nested, walked]
    refine ⟨rfl, ?_, ?_, ?_, fun leaf => (by cases leaf), fun leaf => (by cases leaf)⟩
    all_goals
      simp [StageOneResult.invalidated, StageOneResult.selected, UpperWalk.response,
        StageOneResult.ofPte, StageOneResult.slotOfPte]
  · have mode : walk.request.mode = .stageTwo := second
    rw [nested] at mode
    cases mode
  · intro _ _
    change (∃ shown, some result = some shown ∧
      shown.Equals (setting.guestWalk (setting.walk .nested walk.request.vpn).table) ∧
        shown.fault = true) ∧ _
    rw [walked]
    refine ⟨⟨result, rfl, equals, fault⟩, ?_⟩
    intro slot member
    simp only [StageOneResult.invalidated, Vector.toList_map, List.mem_map] at member
    obtain ⟨valid, _, rfl⟩ := member
    rfl
  · intro _ _ page found
    change (setting.walk .nested walk.request.vpn).page? walk.request.vpn = some page at found
    rw [walked] at found
    cases found

/-! ## Blocks -/

/-- The walk reads the entry of its lookup. -/
private theorem pteAt_read
    {walk : UpperWalk} {address : Word} {memory : Memory}
    (words : setting.word = memory.readWord) (track : walk.OnTrack setting)
    (hosted : walk.Hosted setting) (here : address = walk.address) :
    (setting.tree walk.request.mode).pteAt? walk.request.vpn walk.level =
      some ⟨entryAt (memory.readBlock address) address⟩ := by
  rw [TableTree.pteAt_of_tableAt track.2 hosted, here]
  unfold UpperWalk.address TableTree.entry
  rw [entryAt_readBlock, guest_of_first track.1, setting.tree_word, words]

theorem takeBlock_onTrack
    {params : Params} (bits : params.addressBits = setting.addressBits) {memory : Memory}
    (words : setting.word = memory.readWord) {walk : UpperWalk} {address : Word}
    (waits : walker.state = .memoryWait walk address) (bounded : walker.Bounded)
    (track : walker.state.OnTrack setting clear) :
    (takeBlock params setting.registers (memory.readBlock address)
      walker).state.state.OnTrack setting clear := by
  have bound : walk.level ≤ 1 := bounded walk (by rw [waits]; rfl)
  rw [waits] at track
  obtain ⟨⟨track, hosted⟩, here⟩ := track
  have first := track.1
  have found := pteAt_read words track hosted here
  obtain ⟨followed, _⟩ :=
    takeBlock_cases params setting.registers (memory.readBlock address) waits
  generalize (⟨entryAt (memory.readBlock address) address⟩ : Pte) = pte at found followed
  have beyond := setting.tree_outside walk.request.mode pte
  rw [← bits] at beyond
  generalize (takeBlock params setting.registers (memory.readBlock address)
    walker).state.state = after at followed
  cases followed with
  | accessFault outside =>
      exact fun _ => answers_of_ending { walk with pte := pte } bound first found
        (TableTree.ending_of_outside (beyond.trans outside)) (fun _ leaf => (by cases leaf)) _
  | pageFault inside fault =>
      exact fun _ => answers_of_ending { walk with pte := pte } bound first found
        (TableTree.ending_of_pageFault (beyond.trans inside) fault)
        (fun _ leaf => (by cases leaf)) _
  | superpage inside sound leaf nested =>
      exact ⟨nested, found, TableTree.ending_of_leaf (beyond.trans inside) sound leaf⟩
  | leaf inside sound leaf plain =>
      exact fun _ => answers_of_ending { walk with pte := pte } bound first found
        (TableTree.ending_of_leaf (beyond.trans inside) sound leaf)
        (fun nested => absurd nested plain) _
  | dispatch inside sound pointer last =>
      have reached := TableTree.tableAt_succ found
        (TableTree.ending_eq_none_iff.2 ⟨beyond.trans inside, sound, pointer⟩)
      have level : walk.level = 1 := last
      rw [level] at reached
      exact ⟨first, reached⟩
  | descend inside sound pointer upper =>
      exact enterTable_onTrack
        ⟨first, TableTree.tableAt_succ found
          (TableTree.ending_eq_none_iff.2 ⟨beyond.trans inside, sound, pointer⟩)⟩ rfl

/-- What the walk reads brings true lines. -/
theorem refill_brings
    {params : Params} (bits : params.addressBits = setting.addressBits) {memory : Memory}
    (words : setting.word = memory.readWord) {walk : UpperWalk} {address : Word}
    (waits : walker.state = .memoryWait walk address) (bounded : walker.Bounded)
    (track : walker.state.OnTrack setting clear) :
    (walk.refill address (memory.readBlock address)).Brings setting.facts params
      setting.registers := by
  have bound : walk.level ≤ 1 := bounded walk (by rw [waits]; rfl)
  rw [waits] at track
  obtain ⟨⟨track, hosted⟩, here⟩ := track
  refine Setting.brings bits (pteAt_read words track hosted here) (Nat.le_succ_of_le bound) ?_ _
  intro leaf
  have level : walk.level = 2 := leaf
  omega

/-! ## The second stage -/

theorem takeStageTwo_onTrack
    (params : Params) {result : StageTwoResult} {page : Word}
    (waits : walker.awaitedPage? = some page) (bounded : walker.Bounded)
    (trusted : result.Trusted setting clear page)
    (track : walker.state.OnTrack setting clear) :
    (takeStageTwo params setting.registers result walker).state.state.OnTrack setting
      clear := by
  obtain ⟨translated, _⟩ := takeStageTwo_cases params setting.registers result waits
  generalize (takeStageTwo params setting.registers result walker).state.state = after
    at translated
  cases translated with
  | last walk state =>
      have bound : walk.level ≤ 1 := bounded walk (by rw [state]; rfl)
      rw [state] at track
      obtain ⟨nested, found, ends⟩ := track
      have first : walk.request.mode ≠ .stageTwo := by
        rw [nested]
        exact Mode.noConfusion
      intro unprotected
      refine answers_of_ending walk bound first found ends ?_ _
      intro _ _
      refine ⟨result, rfl, ?_⟩
      rw [lastPage_of_awaitedPage waits state]
      exact trusted (Or.inl unprotected)
  | alone walk state second =>
      have table := table_of_awaitedPage waits state
      rw [state] at track
      rcases track with ⟨_, vpn⟩ | ⟨nested, _⟩
      · intro unprotected
        refine answers_of_guestPage second ?_
        rw [← vpn, table]
        exact trusted (Or.inl unprotected)
      · rw [second] at nested
        cases nested
  | guestFault walk state first fault =>
      have bound : walk.level ≤ 1 := bounded walk (by rw [state]; rfl)
      have table := table_of_awaitedPage waits state
      rw [state] at track
      rcases track with ⟨second, _⟩ | ⟨nested, track⟩
      · exact absurd second first
      · intro unprotected
        have equals := trusted (Or.inl unprotected)
        rw [← table] at equals
        exact answers_of_guestFault bound nested track equals fault _
  | table walk state first mapped =>
      have table := table_of_awaitedPage waits state
      rw [state] at track
      rcases track with ⟨second, _⟩ | ⟨nested, track⟩
      · exact absurd second first
      · refine ⟨track, ?_⟩
        change (setting.tree walk.request.mode).page? walk.table =
          some (result.hostPage walk.table)
        rw [nested, setting.tree_page_nested, table, (trusted (Or.inr mapped)).page, mapped]
        rfl

/-! ## Steps -/

theorem fireStageTwo_onTrack
    {params : Params} {request : StageTwoRequest}
    (wanted : walker.stageTwoRequest? params = some request)
    (track : walker.state.OnTrack setting clear) :
    (fireStageTwo params walker).state.state.OnTrack setting clear := by
  obtain ⟨_, _, _, _, walk, ⟨state, _, next⟩ | ⟨state, _, next⟩⟩ :=
    fireStageTwo_spec params wanted
  all_goals
    rw [state] at track
    rw [next]
    exact track

theorem fireMemory_onTrack
    {params : Params} {request : MemoryRequest}
    (wanted : walker.memoryRequest? params = some request)
    (track : walker.state.OnTrack setting clear) :
    (fireMemory params walker).state.state.OnTrack setting clear := by
  obtain ⟨walk, state, _, next, _⟩ := fireMemory_spec params wanted
  rw [state] at track
  rw [next]
  exact track

theorem tick_onTrack
    (params : Params) {protection : Protection}
    (allows : clear → ∀ address, (protection address).accessFault = false)
    (track : walker.state.OnTrack setting clear) :
    (tick params setting.registers protection walker).state.state.OnTrack setting clear := by
  refine (tick_cases params setting.registers protection walker).1.keeps
    (fun walk fault _ unprotected => ?_) (fun _ _ track => ⟨track, rfl⟩) track
  rw [allows unprotected] at fault
  cases fault

end UpperWalker

end PageWalk
