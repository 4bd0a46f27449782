import PageWalk.Proofs.UpperWalker
import PageWalk.Proofs.Walks.Session

/-!
# Sessions with the upper walker

The upper walker makes the journey of a lookup through the two upper levels. Under nested
translation it has every table page translated before it reads it, and the page of a
superpage at the end. What it has come to it answers, or it hands the leaf level on. A lookup
of the second stage alone is one translation.
-/

namespace PageWalk

/-- What a lookup comes to in the upper walker. -/
inductive UpperAnswer
  | response (response : Response)
  | dispatch (leaf : LeafRequest)
deriving DecidableEq, Repr

/-! ## The journey of a lookup -/

/-- The tree of the first stage, as far as it may be read. Under nested translation a table
page is read from the host page that the second stage has for it. -/
def Setting.guardedFirstTree (setting : Setting) (protection : Protection)
    (translate : Word → StageTwoResult) (mode : Mode) : GuardedTree :=
  { setting.firstTree mode with
    page? := fun table =>
      if mode = .nested then
        let result := translate table
        if result.fault then none else some (result.hostPage table)
      else
        some table
    denied := fun address => (protection address).accessFault
    nested := mode == .nested }

namespace Request

variable (lookup : Request) (registers : Registers) (partners : Partners) (reader : Nat)

/-- The response to a lookup whose walk has ended. An access fault shows no entry, and
without the page of a table no slot is valid. -/
def response (walkEnd : WalkEnd) (stageTwo : Option StageTwoResult) : Response where
  request := lookup
  stageOne :=
    let shown :=
      StageOneResult.ofPte lookup.vpn
        (if walkEnd.ending = .accessFault then {} else walkEnd.pte) walkEnd.level
        (walkEnd.ending == .pageFault) (walkEnd.ending == .accessFault)
        (registers.asid lookup.mode) registers.vmid
    if walkEnd.ending = .unmapped then shown.invalidated else shown
  stageTwo := stageTwo

/-- What follows the last errand of a walk. The response shows the translation that has
stopped the walk, or under nested translation that of the page that it has found. -/
def conclude : Finish → List (Deed UpperAnswer)
  | .handedOn pte => [.answers (.dispatch ⟨lookup, pte.ppn⟩)]
  | .ended walkEnd =>
      let page := mergePage walkEnd.pte.ppn lookup.vpn walkEnd.level
      let answer (stageTwo : Option StageTwoResult) : Deed UpperAnswer :=
        .answers (.response (lookup.response registers walkEnd stageTwo))
      match walkEnd.ending with
      | .unmapped => [answer (some (partners.translate walkEnd.table))]
      | .leaf =>
          if lookup.mode = .nested then
            lookup.translation partners reader page ++ [answer (some (partners.translate page))]
          else
            [answer none]
      | .pageFault | .accessFault => [answer none]

/-- What a lookup of the second stage alone comes to. -/
def alone (page : Word) : List (Deed UpperAnswer) :=
  lookup.translation partners reader page ++
    [.answers (.response { request := lookup, stageTwo := some (partners.translate page) })]

end Request

namespace UpperRequest

/-- The level and the table that the walk starts from. -/
def origin (request : UpperRequest) (root : Word) : Nat × Word :=
  if request.rootHit then (1, request.ppn) else (0, root)

/-- The journey of the lookup through the upper levels. -/
def journey (request : UpperRequest) (tree : GuardedTree) : Journey :=
  let (level, table) := request.origin tree.root
  tree.journeyFrom request.request.vpn (1 - level) level table {}

/-- What the journey of a lookup is like: it asks for one thing after the other and reads one
entry a level at most, each at an address that may be read. Only the pointer that it reads at
level 1 is handed on. -/
structure Travels (tree : GuardedTree) (request : UpperRequest) : Prop where
  orderly : tree.Orderly request.request.vpn (request.origin tree.root).1
    (request.origin tree.root).2 (2 - (request.origin tree.root).1) (request.journey tree)
  handedOn : ∀ pte, (request.journey tree).finish = .handedOn pte →
    ∃ address, .read 1 address pte ∈ (request.journey tree).errands ∧
      tree.ending? pte 1 = none

theorem origin_level (request : UpperRequest) (root : Word) :
    (request.origin root).1 ≤ 1 := by
  unfold origin
  split
  · exact Nat.le_refl 1
  · exact Nat.zero_le 1

theorem journey_eq (request : UpperRequest) (tree : GuardedTree) :
    request.journey tree =
      tree.journeyFrom request.request.vpn (1 - (request.origin tree.root).1)
        (request.origin tree.root).1 (request.origin tree.root).2 {} := rfl

theorem travels (request : UpperRequest) (tree : GuardedTree) : request.Travels tree := by
  have level := request.origin_level tree.root
  have limit : 2 - (request.origin tree.root).1 = 1 - (request.origin tree.root).1 + 1 := by
    omega
  refine ⟨?_, fun pte handed => ?_⟩
  · rw [limit, journey_eq]
    exact GuardedTree.orderly_journeyFrom ..
  · rw [journey_eq] at handed ⊢
    have last : (request.origin tree.root).1 + (1 - (request.origin tree.root).1) = 1 := by
      omega
    have read := GuardedTree.read_of_handedOn handed
    rw [last] at read
    exact read

end UpperRequest

namespace UpperWalker

def answer? (walker : UpperWalker) : Option UpperAnswer :=
  (walker.response?.map .response).or (walker.dispatch?.map .dispatch)

def takeAnswer (params : Params) (walker : UpperWalker) : Outcome UpperWalker :=
  if walker.response?.isSome then walker.takeResponse params else walker.takeDispatch params

def service (params : Params) (registers : Registers) (protection : Protection) :
    Service UpperWalker UpperAnswer where
  tick := tick params registers protection
  read? := fun walker => walker.memoryRequest? params
  sendRead := fireMemory params
  refill? := fun block walker => walker.refill? block
  takeBlock := takeBlock params registers
  page? := fun walker => walker.stageTwoRequest? params
  sendPage := fireStageTwo params
  takePage := takeStageTwo params registers
  answer? := answer?
  takeAnswer := takeAnswer params

/-- The moves that a walk needs that reads at most `reads` entries more, from where the page
of its table has to be found. -/
def rounds : (reads : Nat) → List Session.Move
  | 0 => [.sendPage, .answerPage, .takeAnswer]
  | reads + 1 => .sendPage :: .answerPage :: .tick :: .sendRead :: .answerRead :: rounds reads

theorem rounds_sublist
    {fewer reads : Nat} (bound : fewer ≤ reads) : (rounds fewer).Sublist (rounds reads) := by
  induction bound with
  | refl => exact List.Sublist.refl _
  | step _ inductionHypothesis =>
      exact ((((inductionHypothesis.cons _).cons _).cons _).cons _).cons _

theorem takeAnswer_sublist_rounds (reads : Nat) : [.takeAnswer].Sublist (rounds reads) :=
  (((List.Sublist.refl _).cons _).cons _).trans (rounds_sublist (Nat.zero_le reads))

end UpperWalker

/-! ## What lies ahead of a walk -/

section Ahead

variable (params : Params) (registers : Registers) (protection : Protection)
  (partners : Partners)

def UpperWalk.tree (mode : Mode) : GuardedTree :=
  Setting.guardedFirstTree ⟨params.addressBits, registers, partners.memory.readWord⟩
    protection partners.translate mode

/-- The journey on from a pointer that the walk reads next. -/
def UpperWalk.onward (walk : UpperWalk) : Pte → Journey :=
  (tree params registers protection partners walk.request.mode).onward walk.request.vpn
    (1 - walk.level) walk.level

/-- The journey on from the table of the walk. -/
def UpperWalk.arrival (walk : UpperWalk) : Journey :=
  (tree params registers protection partners walk.request.mode).arrive walk.request.vpn
    walk.level walk.table walk.pte (walk.onward params registers protection partners)

/-- The journey on from the page that the table is read from. -/
def UpperWalk.journey (walk : UpperWalk) : Journey :=
  (tree params registers protection partners walk.request.mode).visit walk.request.vpn
    walk.level walk.table walk.host (walk.onward params registers protection partners)

def UpperWalk.conclude (walk : UpperWalk) (finish : Finish) : List (Deed UpperAnswer) :=
  walk.request.conclude registers partners params.upperId finish

/-- What the walker does on a journey. -/
def UpperWalk.deeds (walk : UpperWalk) (journey : Journey) : List (Deed UpperAnswer) :=
  journey.deeds partners params.upperId walk.request
    (walk.conclude params registers partners)

/-- What the walker does from where the page of its table has to be found. -/
def UpperWalk.asking (walk : UpperWalk) : List (Deed UpperAnswer) :=
  if walk.request.mode = .stageTwo then
    walk.request.alone partners params.upperId walk.table
  else
    walk.deeds params registers partners (walk.arrival params registers protection partners)

def UpperState.ahead : UpperState → List (Deed UpperAnswer)
  | .idle => []
  | .tableRequest walk => walk.asking params registers protection partners
  | .tableWait walk => (walk.asking params registers protection partners).tail
  | .addressCheck walk | .memoryRequest walk _ =>
      walk.deeds params registers partners (walk.journey params registers protection partners)
  | .memoryWait walk _ =>
      (walk.deeds params registers partners
        (walk.journey params registers protection partners)).tail
  | .lastRequest walk =>
      walk.conclude params registers partners (.ended ⟨.leaf, walk.level, walk.table, walk.pte⟩)
  | .lastWait walk =>
      (walk.conclude params registers partners
        (.ended ⟨.leaf, walk.level, walk.table, walk.pte⟩)).tail
  | .dispatch walk => walk.conclude params registers partners (.handedOn walk.pte)
  | .respond response => [.answers (.response response)]

/-- The moves that are still needed in a state. -/
def UpperState.needed : UpperState → List Session.Move
  | .idle => []
  | .tableRequest walk => UpperWalker.rounds (1 - walk.level + 1)
  | .tableWait walk =>
      .answerPage :: .tick :: .sendRead :: .answerRead :: UpperWalker.rounds (1 - walk.level)
  | .addressCheck walk =>
      .tick :: .sendRead :: .answerRead :: UpperWalker.rounds (1 - walk.level)
  | .memoryRequest walk _ =>
      .sendRead :: .answerRead :: UpperWalker.rounds (1 - walk.level)
  | .memoryWait walk _ => .answerRead :: UpperWalker.rounds (1 - walk.level)
  | .lastRequest _ => [.sendPage, .answerPage, .takeAnswer]
  | .lastWait _ => [.answerPage, .takeAnswer]
  | .dispatch _ | .respond _ => [.takeAnswer]

/-- The read that waits for its block. -/
def UpperState.openRead : UpperState → Option MemoryRequest
  | .memoryWait _ address => some ⟨address, params.upperId⟩
  | _ => none

/-- The translation of a guest page for the walk. -/
def UpperWalk.ask (walk : UpperWalk) (page : Word) : StageTwoRequest where
  id := params.upperId
  gvpn := page
  source := walk.request.source

/-- The translation that is waited for. -/
def UpperState.openPage : UpperState → Option StageTwoRequest
  | .tableWait walk => some (walk.ask params walk.table)
  | .lastWait walk => some (walk.ask params walk.lastPage)
  | _ => none

/-- The walk is in the upper levels and translates only what it should, and its read is
allowed. -/
def UpperState.Sound : UpperState → Prop
  | .idle | .dispatch _ | .respond _ => True
  | .tableRequest walk | .tableWait walk =>
      walk.level ≤ 1 ∧ (walk.request.mode = .stageTwo ∨ walk.request.mode = .nested)
  | .addressCheck walk => walk.level ≤ 1
  | .memoryRequest walk address | .memoryWait walk address =>
      walk.level ≤ 1 ∧ address = walk.address ∧ (protection address).accessFault = false
  | .lastRequest walk | .lastWait walk => walk.request.mode = .nested

end Ahead

namespace UpperWalker

/-! ## Steps of the walk and of its journey -/

section Steps

variable {params : Params} {registers : Registers} {protection : Protection}
  {partners : Partners} {walk : UpperWalk}

theorem deeds_of_denied
    (denied : (protection walk.address).accessFault = true) :
    walk.deeds params registers partners (walk.journey params registers protection partners) =
      [.answers (.response (walk.response registers false true none))] :=
  GuardedTree.deeds_visit_of_denied partners _ _ _ denied

/-- The journey on from an entry that a walk has read. -/
private def followed (params : Params) (registers : Registers) (protection : Protection)
    (partners : Partners) (walk : UpperWalk) (pte : Pte) : Journey :=
  (UpperWalk.tree params registers protection partners walk.request.mode).follow walk.level
    walk.table pte (walk.onward params registers protection partners)

variable (params registers partners) in
theorem deeds_of_allowed
    (allowed : (protection walk.address).accessFault = false) :
    walk.deeds params registers partners (walk.journey params registers protection partners) =
      .reads ⟨walk.address, params.upperId⟩ ::
        .refills (walk.refill walk.address (partners.memory.readBlock walk.address)) ::
        walk.deeds params registers partners
          (followed params registers protection partners walk
            ⟨entryAt (partners.memory.readBlock walk.address) walk.address⟩) :=
  GuardedTree.deeds_visit_of_allowed partners _ _ _ rfl allowed

/-- A table page that is not translated is read as it is. -/
theorem arrival_of_plain
    (plain : walk.request.mode ≠ .nested) (host : walk.host = walk.table) :
    walk.arrival params registers protection partners =
      walk.journey params registers protection partners := by
  have direct : (UpperWalk.tree params registers protection partners
      walk.request.mode).page? walk.table = some walk.host := by
    simp [UpperWalk.tree, Setting.guardedFirstTree, plain, host]
  have unled : (UpperWalk.tree params registers protection partners
      walk.request.mode).lead walk.level walk.table = [] := by
    simp [GuardedTree.lead, UpperWalk.tree, Setting.guardedFirstTree, plain]
  rw [UpperWalk.arrival, GuardedTree.arrive, direct, unled]
  rfl

/-- Under nested translation the table page is asked for first. -/
theorem arrival_of_nested
    (nested : walk.request.mode = .nested) {result : StageTwoResult}
    (answer : partners.translate walk.table = result) :
    walk.arrival params registers protection partners =
      (if result.fault then
          ({ finish := .ended ⟨.unmapped, walk.level, walk.table, walk.pte⟩ } : Journey)
        else
          { walk with host := result.hostPage walk.table }.journey params registers protection
            partners).after [.translate walk.level walk.table] := by
  have led : (UpperWalk.tree params registers protection partners
      walk.request.mode).lead walk.level walk.table =
        [.translate walk.level walk.table] := by
    simp [GuardedTree.lead, UpperWalk.tree, Setting.guardedFirstTree, nested]
  have hosted : (UpperWalk.tree params registers protection partners
      walk.request.mode).page? walk.table =
        if result.fault then none else some (result.hostPage walk.table) := by
    simp [UpperWalk.tree, Setting.guardedFirstTree, nested, answer]
  rw [UpperWalk.arrival, GuardedTree.arrive, hosted, led]
  cases result.fault <;> rfl

theorem asking_of_nested (nested : walk.request.mode = .nested) :
    walk.asking params registers protection partners =
      .asks (walk.ask params walk.table) :: .hears (partners.translate walk.table) ::
        walk.deeds params registers partners
          (if (partners.translate walk.table).fault then
              ({ finish := .ended ⟨.unmapped, walk.level, walk.table, walk.pte⟩ } : Journey)
            else
              { walk with
                host := (partners.translate walk.table).hostPage walk.table }.journey params
                  registers protection partners) := by
  have first : walk.request.mode ≠ .stageTwo := by
    rw [nested]
    exact Mode.noConfusion
  rw [UpperWalk.asking, if_neg first, arrival_of_nested nested rfl, UpperWalk.deeds,
    Journey.deeds_after]
  rfl

/-- A pointer at the root leads to the table of level 1. -/
private theorem onward_of_root
    (root : walk.level = 0) (pte : Pte) :
    walk.onward params registers protection partners pte =
      { walk with
        level := walk.level + 1
        table := pte.ppn
        host := pte.ppn
        pte := pte }.arrival params registers protection partners := by
  simp only [UpperWalk.onward, UpperWalk.arrival, root]
  rfl

/-- What a walk does after a read is what lies ahead of the state that it goes on in. -/
theorem ahead_of_followed
    {pte : Pte} {after : UpperState} (bound : walk.level ≤ 1)
    (followed : Followed params registers { walk with pte := pte } after) :
    after.ahead params registers protection partners =
      walk.deeds params registers partners
        (UpperWalker.followed params registers protection partners walk pte) := by
  let tree := UpperWalk.tree params registers protection partners walk.request.mode
  cases followed with
  | accessFault outside =>
      have ends : tree.ending? pte walk.level = some .accessFault :=
        TableTree.ending_of_outside outside
      rw [UpperWalker.followed, GuardedTree.follow_of_ending ends]
      rfl
  | pageFault inside fault =>
      have ends : tree.ending? pte walk.level = some .pageFault :=
        TableTree.ending_of_pageFault inside fault
      rw [UpperWalker.followed, GuardedTree.follow_of_ending ends]
      rfl
  | superpage inside sound leaf nested =>
      have ends : tree.ending? pte walk.level = some .leaf :=
        TableTree.ending_of_leaf inside sound leaf
      rw [UpperWalker.followed, GuardedTree.follow_of_ending ends]
      rfl
  | leaf inside sound leaf plain =>
      have ends : tree.ending? pte walk.level = some .leaf :=
        TableTree.ending_of_leaf inside sound leaf
      have only : walk.request.mode ≠ .nested := plain
      rw [UpperWalker.followed, GuardedTree.follow_of_ending ends]
      simp only [UpperWalk.deeds, Journey.deeds, UpperWalk.conclude, Request.conclude, only,
        if_false]
      rfl
  | dispatch inside sound pointer last =>
      have onwards : tree.ending? pte walk.level = none :=
        TableTree.ending_eq_none_iff.2 ⟨inside, sound, pointer⟩
      have level : walk.level = 1 := last
      rw [UpperWalker.followed, GuardedTree.follow_of_pointer onwards]
      simp only [UpperWalk.onward, level]
      rfl
  | descend inside sound pointer upper =>
      have onwards : tree.ending? pte walk.level = none :=
        TableTree.ending_eq_none_iff.2 ⟨inside, sound, pointer⟩
      have different : walk.level ≠ 1 := upper
      have root : walk.level = 0 := by omega
      rw [UpperWalker.followed, GuardedTree.follow_of_pointer onwards, onward_of_root root]
      generalize followed : ({ walk with
        level := walk.level + 1
        table := pte.ppn
        host := pte.ppn
        pte := pte } : UpperWalk) = next
      have request : next.request = walk.request := by rw [← followed]
      have host : next.host = next.table := by rw [← followed]
      have same : walk.deeds params registers partners =
          next.deeds params registers partners := by
        unfold UpperWalk.deeds UpperWalk.conclude
        rw [request]
      rw [same]
      rcases enterTable_cases next with ⟨nested, state⟩ | ⟨plain, state⟩
      · have first : next.request.mode ≠ .stageTwo := by
          rw [nested]
          exact Mode.noConfusion
        rw [state, UpperState.ahead, UpperWalk.asking, if_neg first]
      · rw [state, UpperState.ahead, arrival_of_plain plain host]

theorem needed_of_followed
    {pte : Pte} {after : UpperState} (bound : walk.level ≤ 1)
    (followed : Followed params registers { walk with pte := pte } after) :
    after.needed.Sublist (rounds (1 - walk.level)) ∧ after.Sound protection ∧
      after.openRead params = none ∧ after.openPage params = none := by
  cases followed with
  | accessFault | pageFault | leaf | dispatch =>
      exact ⟨takeAnswer_sublist_rounds _, trivial, rfl, rfl⟩
  | superpage _ _ _ nested =>
      exact ⟨rounds_sublist (Nat.zero_le _), nested, rfl, rfl⟩
  | descend _ _ _ upper =>
      have different : walk.level ≠ 1 := upper
      have root : walk.level = 0 := by omega
      have levels : walk.level + 1 ≤ 1 := by omega
      rcases enterTable_cases
          { walk with
            level := walk.level + 1
            table := pte.ppn
            host := pte.ppn
            pte := pte } with ⟨nested, state⟩ | ⟨_, state⟩
      · rw [state]
        refine ⟨?_, ⟨levels, .inr nested⟩, rfl, rfl⟩
        simp only [UpperState.needed, root]
        exact List.Sublist.refl _
      · rw [state]
        refine ⟨?_, levels, rfl, rfl⟩
        simp only [UpperState.needed, root]
        exact ((List.Sublist.refl _).cons _).cons _

/-- A step keeps what lies ahead: a denied address ends the walk, as its journey does. -/
theorem ticked_advances
    {before after : UpperState} (ticked : Ticked registers protection before after)
    (sound : before.Sound protection) :
    after.Sound protection ∧ after.openRead params = before.openRead params ∧
      after.openPage params = before.openPage params ∧
      after.ahead params registers protection partners =
        before.ahead params registers protection partners ∧
      Session.Progress .tick before.needed after.needed := by
  cases ticked with
  | denied walk due denied =>
      subst due
      refine ⟨trivial, rfl, rfl, (deeds_of_denied denied).symm,
        Session.progress_of_due _ ?_⟩
      exact ((takeAnswer_sublist_rounds _).cons _).cons _
  | passed walk due allowed =>
      subst due
      exact ⟨⟨sound, rfl, allowed⟩, rfl, rfl, rfl,
        Session.progress_of_due _ (List.Sublist.refl _)⟩
  | unchecked notDue =>
      refine ⟨sound, rfl, rfl, rfl, Session.progress_of_early ?_⟩
      cases before with
      | addressCheck walk => exact absurd rfl (notDue walk)
      | _ => simp [UpperState.needed, rounds]

/-- The translation of the table page comes first. -/
theorem asking_cons
    (due : walk.request.mode = .stageTwo ∨ walk.request.mode = .nested) :
    walk.asking params registers protection partners =
      .asks (walk.ask params walk.table) ::
        (walk.asking params registers protection partners).tail := by
  rcases due with second | nested
  · simp [UpperWalk.asking, UpperWalk.ask, second, Request.alone, Request.translation]
  · rw [asking_of_nested nested]
    rfl

/-- A walk that asks for a page does what lies ahead of it. -/
theorem fired_advances
    {walker : UpperWalker} {page : StageTwoRequest}
    (wanted : walker.stageTwoRequest? params = some page)
    (sound : walker.state.Sound protection) :
    let after := (walker.fireStageTwo params).state.state
    after.Sound protection ∧ after.openRead params = walker.state.openRead params ∧
      after.openPage params = some page ∧
      walker.state.ahead params registers protection partners =
        .asks page :: after.ahead params registers protection partners ∧
      Session.Progress .sendPage walker.state.needed after.needed := by
  cases state : walker.state with
  | tableRequest walk =>
      rw [state] at sound
      have next : (walker.fireStageTwo params).state.state = .tableWait walk := by
        simp [fireStageTwo, state]
      simp only [stageTwoRequest?, state, Option.some.injEq] at wanted
      subst wanted
      rw [next]
      exact ⟨sound, rfl, rfl, asking_cons sound.2,
        Session.progress_of_due _ (List.Sublist.refl _)⟩
  | lastRequest walk =>
      rw [state] at sound
      have nested : walk.request.mode = .nested := sound
      have next : (walker.fireStageTwo params).state.state = .lastWait walk := by
        simp [fireStageTwo, state]
      simp only [stageTwoRequest?, state, Option.some.injEq] at wanted
      subst wanted
      rw [next]
      refine ⟨sound, rfl, rfl, ?_, Session.progress_of_due _ (List.Sublist.refl _)⟩
      simp only [UpperState.ahead, UpperWalk.conclude, Request.conclude, nested, if_true]
      rfl
  | _ => simp [stageTwoRequest?, state] at wanted

/-- What a walk does after a translation is what lies ahead of the state that it goes on in. -/
theorem translated_advances
    {before after : UpperState} {page : StageTwoRequest}
    (waits : before.openPage params = some page) (sound : before.Sound protection)
    (translated :
      Translated params registers (partners.translate page.gvpn) before after) :
    after.Sound protection ∧ after.openRead params = before.openRead params ∧
      after.openPage params = none ∧
      before.ahead params registers protection partners =
        .hears (partners.translate page.gvpn) ::
          after.ahead params registers protection partners ∧
      Session.Progress .answerPage before.needed after.needed := by
  cases translated with
  | last walk state =>
      subst state
      cases waits
      have nested : walk.request.mode = .nested := sound
      refine ⟨trivial, rfl, rfl, ?_, Session.progress_of_due _ (List.Sublist.refl _)⟩
      simp only [UpperState.ahead, UpperWalk.conclude, Request.conclude, nested, if_true]
      rfl
  | alone walk state second =>
      subst state
      cases waits
      refine ⟨trivial, rfl, rfl, ?_, Session.progress_of_due _ ?_⟩
      · simp only [UpperState.ahead, UpperWalk.asking, second, if_true]
        rfl
      · exact (((takeAnswer_sublist_rounds _).cons _).cons _).cons _
  | guestFault walk state first fault =>
      subst state
      cases waits
      have nested : walk.request.mode = .nested := sound.2.resolve_left first
      have fault : (partners.translate walk.table).fault = true := fault
      refine ⟨trivial, rfl, rfl, ?_, Session.progress_of_due _ ?_⟩
      · simp only [UpperState.ahead]
        rw [asking_of_nested nested, if_pos fault]
        rfl
      · exact (((takeAnswer_sublist_rounds _).cons _).cons _).cons _
  | table walk state first mapped =>
      subst state
      cases waits
      have nested : walk.request.mode = .nested := sound.2.resolve_left first
      have mapped : ¬ (partners.translate walk.table).fault = true :=
        Bool.eq_false_iff.1 mapped
      refine ⟨sound.1, rfl, rfl, ?_, Session.progress_of_due _ (List.Sublist.refl _)⟩
      simp only [UpperState.ahead]
      rw [asking_of_nested nested, if_neg mapped]
      rfl

end Steps

/-! ## Moves of a session -/

/-- The session is on course: the walker is in its journey, and the session knows what it
waits for. -/
structure OnCourse (params : Params) (protection : Protection)
    (session : Session UpperWalker UpperAnswer) : Prop where
  sound : session.walker.state.Sound protection
  read : session.read = session.walker.state.openRead params
  page : session.page = session.walker.state.openPage params

/-- A move keeps the session on course. -/
def Advances (params : Params) (registers : Registers) (protection : Protection)
    (partners : Partners) (move : Session.Move) (session : Session UpperWalker UpperAnswer) :
    Prop :=
  Session.Advances (OnCourse params protection)
    (fun walker => walker.state.ahead params registers protection partners)
    (fun walker => walker.state.needed) move session
    (session.perform (service params registers protection) partners move)

section Moves

variable {params : Params} {registers : Registers} {protection : Protection}
  {partners : Partners} {session : Session UpperWalker UpperAnswer}

private theorem advances_tick
    (fits : OnCourse params protection session) :
    Advances params registers protection partners .tick session := by
  obtain ⟨ticked, uneventful⟩ := tick_cases params registers protection session.walker
  obtain ⟨sound, read, page, ahead, progress⟩ := ticked_advances ticked fits.sound
  exact ⟨uneventful.running, ⟨sound, fits.read.trans read.symm, fits.page.trans page.symm⟩,
    congrArg (session.deeds ++ ·) ahead, progress⟩

private theorem advances_sendRead
    (fits : OnCourse params protection session) :
    Advances params registers protection partners .sendRead session := by
  simp only [Advances, Session.perform, service]
  cases wanted : session.walker.memoryRequest? params with
  | none =>
      refine Session.advances_of_early fits ?_
      cases state : session.walker.state with
      | memoryRequest walk address => simp [memoryRequest?, state] at wanted
      | _ => simp [UpperState.needed, rounds]
  | some request =>
      obtain ⟨walk, state, reader, next, uneventful⟩ := fireMemory_spec params wanted
      have sound := fits.sound
      have page := fits.page
      rw [state] at sound page
      obtain ⟨bound, address, allowed⟩ := sound
      have same : request = ⟨walk.address, params.upperId⟩ := by
        rw [← address, ← reader]
      have deeds := deeds_of_allowed params registers partners (address ▸ allowed)
      refine ⟨uneventful.running, ⟨?_, ?_, ?_⟩, ?_, ?_⟩
      · simp only [Outcome.map_state, next]
        exact ⟨bound, address, allowed⟩
      · simp only [Outcome.map_state, next, same]
        rfl
      · simp only [Outcome.map_state, next, page]
        rfl
      · simp only [Outcome.map_state, next, state, UpperState.ahead]
        rw [deeds, same, List.append_assoc]
        rfl
      · simp only [Outcome.map_state, next, state]
        exact Session.progress_of_due _ (List.Sublist.refl _)

private theorem advances_answerRead
    (fits : OnCourse params protection session) :
    Advances params registers protection partners .answerRead session := by
  simp only [Advances, Session.perform, service]
  cases asked : session.read with
  | none =>
      refine Session.advances_of_early fits ?_
      have read := asked.symm.trans fits.read
      cases state : session.walker.state with
      | memoryWait walk address => simp [state, UpperState.openRead] at read
      | _ => simp [UpperState.needed, rounds]
  | some request =>
      have read := asked.symm.trans fits.read
      have sound := fits.sound
      have page := fits.page
      cases state : session.walker.state with
      | memoryWait walk address =>
          rw [state] at sound read page
          obtain ⟨bound, rfl, allowed⟩ := sound
          cases read
          obtain ⟨followed, uneventful⟩ := takeBlock_cases params registers
            (partners.memory.readBlock walk.address) state
          obtain ⟨fewer, next, closedRead, closedPage⟩ := needed_of_followed bound followed
          have deeds := deeds_of_allowed params registers partners allowed
          refine ⟨uneventful.running, ⟨next, closedRead.symm, page.trans closedPage.symm⟩,
            ?_, ?_⟩
          · simp only [Outcome.map_state]
            rw [ahead_of_followed bound followed, state, refill_of_memoryWait state,
              List.append_assoc]
            simp only [UpperState.ahead, deeds]
            rfl
          · simp only [Outcome.map_state, state]
            exact Session.progress_of_due _ fewer
      | _ => simp [state, UpperState.openRead] at read

private theorem advances_sendPage
    (fits : OnCourse params protection session) :
    Advances params registers protection partners .sendPage session := by
  simp only [Advances, Session.perform, service]
  cases wanted : session.walker.stageTwoRequest? params with
  | none =>
      refine Session.advances_of_early fits ?_
      cases state : session.walker.state with
      | tableRequest walk | lastRequest walk => simp [stageTwoRequest?, state] at wanted
      | _ => simp [UpperState.needed]
  | some page =>
      obtain ⟨_, _, _, uneventful, _⟩ := fireStageTwo_spec params wanted
      obtain ⟨sound, read, asked, ahead, progress⟩ := fired_advances wanted fits.sound
      refine ⟨uneventful.running, ⟨sound, fits.read.trans read.symm, asked.symm⟩, ?_, progress⟩
      simp only [Outcome.map_state]
      rw [ahead, List.append_assoc]
      rfl

private theorem advances_answerPage
    (fits : OnCourse params protection session) :
    Advances params registers protection partners .answerPage session := by
  simp only [Advances, Session.perform, service]
  have page := fits.page
  cases asked : session.page with
  | none =>
      refine Session.advances_of_early fits ?_
      rw [asked] at page
      cases state : session.walker.state with
      | tableWait walk | lastWait walk => simp [state, UpperState.openPage] at page
      | _ => simp [UpperState.needed, rounds]
  | some request =>
      rw [asked] at page
      have waits : session.walker.awaitedPage? = some request.gvpn := by
        cases state : session.walker.state with
        | tableWait walk | lastWait walk =>
            rw [state] at page
            cases page
            simp [awaitedPage?, state, UpperWalk.ask]
        | _ => simp [state, UpperState.openPage] at page
      obtain ⟨translated, uneventful⟩ := takeStageTwo_cases params registers
        (partners.translate request.gvpn) waits
      obtain ⟨sound, read, closed, ahead, progress⟩ :=
        translated_advances page.symm fits.sound translated
      refine ⟨uneventful.running, ⟨sound, fits.read.trans read.symm, closed.symm⟩, ?_, progress⟩
      simp only [Outcome.map_state]
      rw [ahead, List.append_assoc]
      rfl

variable (registers protection partners) in
/-- A walker with an answer is in its last state, and is idle when the answer was taken. -/
private theorem takeAnswer_spec
    {walker : UpperWalker} {answer : UpperAnswer} (finished : walker.answer? = some answer) :
    (takeAnswer params walker).fault = none ∧
      (takeAnswer params walker).state.state = .idle ∧
      walker.state.openRead params = none ∧ walker.state.openPage params = none ∧
      walker.state.ahead params registers protection partners = [.answers answer] ∧
      walker.state.needed = [.takeAnswer] := by
  unfold answer? at finished
  unfold takeAnswer
  cases responded : walker.response? with
  | some response =>
      rw [responded] at finished
      cases finished
      obtain ⟨idle, uneventful⟩ := takeResponse_spec params responded
      rw [state_of_response responded]
      exact ⟨uneventful.running, idle, rfl, rfl, rfl, rfl⟩
  | none =>
      rw [responded] at finished
      obtain ⟨leaf, dispatched, rfl⟩ := Option.map_eq_some_iff.1 finished
      obtain ⟨idle, uneventful⟩ := takeDispatch_spec params dispatched
      obtain ⟨walk, state, rfl⟩ := state_of_dispatch dispatched
      rw [state]
      exact ⟨uneventful.running, idle, rfl, rfl, rfl, rfl⟩

private theorem advances_takeAnswer
    (fits : OnCourse params protection session) :
    Advances params registers protection partners .takeAnswer session := by
  simp only [Advances, Session.perform, service]
  cases finished : session.walker.answer? with
  | none =>
      refine Session.advances_of_early fits ?_
      cases state : session.walker.state with
      | respond response => simp [answer?, response?, state] at finished
      | dispatch walk => simp [answer?, response?, dispatch?, state] at finished
      | _ => simp [UpperState.needed, rounds]
  | some answer =>
      obtain ⟨running, idle, read, page, ahead, needed⟩ :=
        takeAnswer_spec registers protection partners finished
      refine ⟨running, ⟨?_, ?_, ?_⟩, ?_, ?_⟩
      · simp only [Outcome.map_state, idle]
        trivial
      · simp only [Outcome.map_state, idle]
        exact fits.read.trans read
      · simp only [Outcome.map_state, idle]
        exact fits.page.trans page
      · simp only [Outcome.map_state, idle]
        rw [ahead]
        exact List.append_nil _
      · simp only [Outcome.map_state, idle, needed]
        exact Session.progress_of_due _ (List.Sublist.refl _)

theorem advances
    (fits : OnCourse params protection session) (move : Session.Move) :
    Advances params registers protection partners move session := by
  cases move with
  | tick => exact advances_tick fits
  | sendRead => exact advances_sendRead fits
  | answerRead => exact advances_answerRead fits
  | sendPage => exact advances_sendPage fits
  | answerPage => exact advances_answerPage fits
  | takeAnswer => exact advances_takeAnswer fits

end Moves

/-! ## Whole sessions -/

/-- What a session with the walker does for a request, from first to last. -/
def course (params : Params) (registers : Registers) (protection : Protection)
    (partners : Partners) (request : UpperRequest) : List (Deed UpperAnswer) :=
  let lookup := request.request
  if lookup.mode = .stageTwo then
    lookup.alone partners params.upperId lookup.vpn
  else
    (request.journey (UpperWalk.tree params registers protection partners lookup.mode)).deeds
      partners params.upperId lookup
      (lookup.conclude registers partners params.upperId)

private theorem start_of_stageTwo
    (registers : Registers) {request : UpperRequest}
    (second : request.request.mode = .stageTwo) :
    UpperWalk.start registers request =
      { request := request.request, table := request.request.vpn } := by
  simp [UpperWalk.start, second]

private theorem start_of_first
    (registers : Registers) {request : UpperRequest}
    (first : request.request.mode ≠ .stageTwo) :
    UpperWalk.start registers request =
      { request := request.request
        level := (request.origin (registers.stageOneRoot request.request.mode).ppn).1
        table := (request.origin (registers.stageOneRoot request.request.mode).ppn).2
        host := (request.origin (registers.stageOneRoot request.request.mode).ppn).2 } := by
  unfold UpperWalk.start UpperRequest.origin
  simp only [first, if_false]
  split <;> rfl

private theorem ended_of_needed
    (params : Params) (registers : Registers) (protection : Protection) (partners : Partners)
    {state : UpperState} (done : state.needed = []) :
    state.ahead params registers protection partners = [] ∧ state = .idle := by
  cases state with
  | idle => exact ⟨rfl, rfl⟩
  | _ => cases done

/-- From where the page of its table has to be found, a walk has its whole course ahead. -/
private theorem ahead_of_enterTable
    (params : Params) (registers : Registers) (protection : Protection) (partners : Partners)
    {walk : UpperWalk} (first : walk.request.mode ≠ .stageTwo) (bound : walk.level ≤ 1)
    (host : walk.host = walk.table) :
    walk.enterTable.Sound protection ∧ walk.enterTable.openRead params = none ∧
      walk.enterTable.openPage params = none ∧
      walk.enterTable.ahead params registers protection partners =
        walk.deeds params registers partners
          (walk.arrival params registers protection partners) ∧
      walk.enterTable.needed.Sublist (rounds 2) := by
  rcases enterTable_cases walk with ⟨nested, state⟩ | ⟨plain, state⟩
  · rw [state]
    refine ⟨⟨bound, .inr nested⟩, rfl, rfl, ?_, rounds_sublist (by omega)⟩
    rw [UpperState.ahead, UpperWalk.asking, if_neg first]
  · rw [state]
    refine ⟨bound, rfl, rfl, ?_, ?_⟩
    · rw [UpperState.ahead, arrival_of_plain plain host]
    · have later := rounds_sublist (by omega : 1 - walk.level ≤ 1)
      exact ((((later.cons_cons _).cons_cons _).cons_cons _).cons _).cons _

/-- Right after a walk was accepted its whole course lies ahead. -/
private theorem ahead_of_accepted
    (params : Params) (registers : Registers) (protection : Protection) (partners : Partners)
    (request : UpperRequest) {walker : UpperWalker} (ready : walker.ready = true) :
    let accepted := (walker.accept params registers request).state.state
    accepted.Sound protection ∧ accepted.openRead params = none ∧
      accepted.openPage params = none ∧
      accepted.ahead params registers protection partners =
        course params registers protection partners request ∧
      accepted.needed.Sublist (rounds 2) := by
  have same := start_request registers request
  obtain ⟨_, ⟨second, state⟩ | ⟨first, state⟩⟩ := accept_spec params registers request ready
  · rw [same] at second
    rw [state, start_of_stageTwo registers second]
    refine ⟨⟨Nat.zero_le 1, .inl second⟩, rfl, rfl, ?_, List.Sublist.refl _⟩
    simp only [UpperState.ahead, UpperWalk.asking, course, second, if_true]
  · have level := start_level registers request
    have begun := ahead_of_enterTable params registers protection partners first level
      (by rw [same] at first; rw [start_of_first registers first])
    rw [state]
    rw [same] at first
    refine ⟨begun.1, begun.2.1, begun.2.2.1, begun.2.2.2.1.trans ?_, begun.2.2.2.2⟩
    rw [course, if_neg first, start_of_first registers first]
    rfl

/-- A session with the upper walker, for any request, with any steps of the walker in
between, makes the journey of the lookup and nothing else. -/
theorem session_served
    (params : Params) (registers : Registers) (protection : Protection) (partners : Partners)
    (request : UpperRequest) {walker : UpperWalker} (ready : walker.ready = true)
    (moves : List Session.Move) :
    let accepted := walker.accept params registers request
    accepted.fault = none ∧
      Session.Served (·.isIdle = true) (course params registers protection partners request)
        (rounds 2) moves
        (Session.run (service params registers protection) partners moves
          { walker := accepted.state }) ∧
      request.Travels
        (UpperWalk.tree params registers protection partners request.request.mode) := by
  intro accepted
  obtain ⟨sound, read, page, ahead, needed⟩ :=
    ahead_of_accepted params registers protection partners request ready
  refine ⟨(accept_spec params registers request ready).1.running,
    Session.served_of_advances (fun move session fits => advances fits move) ?_
      (⟨sound, read.symm, page.symm⟩ : OnCourse params protection { walker := accepted.state })
      ahead needed moves,
    request.travels _⟩
  intro ended done
  obtain ⟨nothing, idle⟩ := ended_of_needed params registers protection partners done
  exact ⟨nothing, by simp [isIdle, idle]⟩

/-- A nested walk through both upper levels translates each table page before it reads it,
and the page of the superpage that it finds. -/
theorem superpage_session_served :
    let partners : Partners :=
      { memory := (({} : Memory).setWord 0x100000 0x401).setWord 0x101008 0x800cf
        translate := fun page => { level := 2, ppn := page + 0x100, valid := true } }
    let request : UpperRequest := { request := { vpn := 0x203, mode := .nested } }
    let walker : UpperWalker := {}
    let moves : List Session.Move := .tick :: rounds 2
    let accepted := walker.accept .small {} request
    let outcome := Session.run (service .small {} .allowAll) partners moves
      { walker := accepted.state }
    walker.ready = true ∧ (rounds 2).Sublist moves ∧
      outcome.state.deeds.map (fun deed => match deed with
        | .asks page => some page.gvpn
        | .hears result => some result.ppn
        | .reads read => some read.address
        | .answers (.response response) => response.stageTwo.map StageTwoResult.ppn
        | .refills _ | .answers (.dispatch _) => none) =
          [some 0, some 0x100, some 0x100000, none, some 1, some 0x101, some 0x101008, none,
            some 0x203, some 0x303, some 0x303] ∧
      accepted.fault = none ∧
      Session.Served (·.isIdle = true) (course .small {} .allowAll partners request) (rounds 2)
        moves outcome ∧
      request.Travels (UpperWalk.tree .small {} .allowAll partners .nested) := by
  intro partners request walker moves accepted outcome
  exact ⟨rfl, List.sublist_cons_self .., by decide +kernel,
    session_served .small {} .allowAll partners request rfl moves⟩

end UpperWalker

end PageWalk
