import PageWalk.Proofs.StageTwoWalker
import PageWalk.Proofs.Walks.Session

/-!
# Sessions with the second-stage walker

The second-stage walker makes the journey of its guest page, from the root or from the table
that its request knows. It reads what the journey reads, in this order, tells the cache about
every block, and replies with the end of the journey.
-/

namespace PageWalk

/-! ## The journey of a guest page -/

/-- The tree of the second stage, as far as it may be read. -/
def Setting.guardedGuestTree (setting : Setting) (protection : Protection) : GuardedTree :=
  { setting.guestTree with
    denied := fun address => (protection address).accessFault
    nested := false }

namespace StageTwoRequest

/-- The level and the table that the walk starts from. -/
def origin (request : StageTwoRequest) (root : Word) : Nat × Word :=
  if request.middleHit then (2, request.ppn)
  else if request.rootHit then (1, request.ppn)
  else (0, root)

/-- The journey of the guest page. A page number that is too wide is a page fault at once. -/
def journey (request : StageTwoRequest) (tree : GuardedTree) : Journey :=
  let (level, table) := request.origin tree.root
  if tree.covers request.gvpn then
    tree.journeyFrom request.gvpn (leafLevel - level) level table {}
  else
    { finish := .ended ⟨.pageFault, level, table, {}⟩ }

/-- The lookup that the walk tells the cache about. -/
def lookup (request : StageTwoRequest) : Request where
  vpn := request.gvpn
  source := request.source
  mode := .stageTwo

/-- The reply to a journey that has ended. -/
def reply (request : StageTwoRequest) (registers : Registers) (walkEnd : WalkEnd) :
    StageTwoReply where
  id := request.id
  result :=
    StageTwoResult.ofPte request.gvpn walkEnd.pte walkEnd.level
      (walkEnd.ending == .pageFault) (walkEnd.ending == .accessFault) registers.vmid

def conclude (request : StageTwoRequest) (registers : Registers) :
    Finish → List (Deed StageTwoReply)
  | .ended walkEnd => [.answers (request.reply registers walkEnd)]
  | .handedOn _ => []

/-- The same request without what it knows. -/
def unhinted (request : StageTwoRequest) : StageTwoRequest :=
  { request with rootHit := false, middleHit := false }

/-- What the journey of a guest page is like: it reads one entry a level at most, each at an
address that may be read, and it ends. From a table that the journey from the root comes to it
ends as that one does. Without denied addresses it is the plain walk. -/
structure Travels (tree : GuardedTree) (request : StageTwoRequest) : Prop where
  orderly : tree.Orderly request.gvpn (request.origin tree.root).1 (request.origin tree.root).2
    (leafLevel + 1 - (request.origin tree.root).1) (request.journey tree)
  ends : ∃ walkEnd, (request.journey tree).finish = .ended walkEnd
  hinted : ∀ level address pte,
    .read level address pte ∈ (request.unhinted.journey tree).errands →
    tree.ending? pte level = none → request.origin tree.root = (level + 1, pte.ppn) →
    (request.journey tree).finish = (request.unhinted.journey tree).finish
  plain : (∀ address, tree.denied address = false) → tree.covers request.gvpn = true →
    (request.journey tree).finish = .ended
      (tree.walkFrom request.gvpn (leafLevel - (request.origin tree.root).1)
        (request.origin tree.root).1 (request.origin tree.root).2)

theorem origin_level (request : StageTwoRequest) (root : Word) :
    (request.origin root).1 ≤ leafLevel := by
  unfold origin
  split
  · exact Nat.le_refl 2
  · split
    · exact (by decide : 1 ≤ leafLevel)
    · exact Nat.zero_le leafLevel

section Journeys

variable {tree : GuardedTree} {request : StageTwoRequest}

theorem journey_of_covered (covered : tree.covers request.gvpn = true) :
    request.journey tree =
      tree.journeyFrom request.gvpn (leafLevel - (request.origin tree.root).1)
        (request.origin tree.root).1 (request.origin tree.root).2 {} := by
  simp [journey, covered]

theorem journey_of_wide (wide : tree.covers request.gvpn = false) :
    request.journey tree =
      { finish := .ended
          ⟨.pageFault, (request.origin tree.root).1, (request.origin tree.root).2, {}⟩ } := by
  simp [journey, wide]

theorem travels
    (plain : ∀ table, tree.page? table = some table) : request.Travels tree := by
  have level := request.origin_level tree.root
  cases covered : tree.covers request.gvpn with
  | false =>
      have root : tree.covers request.unhinted.gvpn = false := covered
      refine ⟨?_, ?_, ?_, fun _ covers => ?_⟩
      · rw [journey_of_wide covered]
        exact GuardedTree.orderly_of_errands_nil ..
      · rw [journey_of_wide covered]
        exact ⟨_, rfl⟩
      · intro here address pte read
        rw [journey_of_wide root] at read
        cases read
      · cases covered.symm.trans covers
  | true =>
      have root : tree.covers request.unhinted.gvpn = true := covered
      refine ⟨?_, ?_, ?_, fun allowed _ => ?_⟩
      · rw [journey_of_covered covered]
        have limit : leafLevel + 1 - (request.origin tree.root).1 =
            leafLevel - (request.origin tree.root).1 + 1 := by omega
        rw [limit]
        exact GuardedTree.orderly_journeyFrom ..
      · rw [journey_of_covered covered]
        exact GuardedTree.journeyFrom_ends _ (by omega) _ _
      · intro here address pte read pointer reached
        rw [journey_of_covered root] at read ⊢
        rw [journey_of_covered covered, reached]
        rw [reached] at level
        obtain ⟨rest, levels, same⟩ := GuardedTree.finish_of_pointer read pointer
        have origin : (request.unhinted.origin tree.root).1 = 0 := rfl
        have below : rest = leafLevel - (here + 1) + 1 := by omega
        rw [same, below]
        exact congrArg Journey.finish
          (GuardedTree.journeyFrom_eq_of_plain plain _ (leafLevel - (here + 1)) (here + 1)
            pte.ppn {} pte)
      · rw [journey_of_covered covered]
        exact GuardedTree.finish_eq_walkFrom allowed plain _ (by omega) _ _

end Journeys

end StageTwoRequest

namespace StageTwoWalker

def service (params : Params) (registers : Registers) (protection : Protection) :
    Service StageTwoWalker StageTwoReply where
  tick := tick params registers protection
  read? := fun walker => walker.memoryRequest? params
  sendRead := fireMemory params
  refill? := fun block walker => walker.refill? block
  takeBlock := takeBlock params registers
  page? := fun _ => none
  sendPage := fun walker => { state := walker }
  takePage := fun _ walker => { state := walker }
  answer? := reply?
  takeAnswer := takeReply params

/-- The moves that a walk needs that reads at most `reads` entries more. -/
def rounds : (reads : Nat) → List Session.Move
  | 0 => [.takeAnswer]
  | reads + 1 => .tick :: .sendRead :: .answerRead :: rounds reads

theorem takeAnswer_sublist_rounds (reads : Nat) : [.takeAnswer].Sublist (rounds reads) := by
  induction reads with
  | zero => exact List.Sublist.refl _
  | succ reads inductionHypothesis =>
      exact ((inductionHypothesis.cons _).cons _).cons _

theorem rounds_sublist
    {fewer reads : Nat} (bound : fewer ≤ reads) : (rounds fewer).Sublist (rounds reads) := by
  induction bound with
  | refl => exact List.Sublist.refl _
  | step _ inductionHypothesis => exact ((inductionHypothesis.cons _).cons _).cons _

end StageTwoWalker

/-! ## What lies ahead of a walk -/

section Ahead

variable (params : Params) (registers : Registers) (protection : Protection) (partners : Partners)

def GuestWalk.tree : GuardedTree :=
  Setting.guardedGuestTree ⟨params.addressBits, registers, partners.memory.readWord⟩ protection

/-- The journey on from the entry that the walk has to read next. -/
def GuestWalk.journey (walk : GuestWalk) : Journey :=
  let tree := tree params registers protection partners
  tree.visit walk.request.gvpn walk.level walk.table walk.table
    (tree.onward walk.request.gvpn (leafLevel - walk.level) walk.level)

/-- What the walker does on the journey. -/
def GuestWalk.deeds (walk : GuestWalk) (journey : Journey) : List (Deed StageTwoReply) :=
  journey.deeds partners params.stageTwoId walk.request.lookup (walk.request.conclude registers)

def StageTwoState.ahead : StageTwoState → List (Deed StageTwoReply)
  | .idle => []
  | .addressCheck walk | .memoryRequest walk _ =>
      walk.deeds params registers partners (walk.journey params registers protection partners)
  | .memoryWait walk _ =>
      (walk.deeds params registers partners
        (walk.journey params registers protection partners)).tail
  | .respond reply => [.answers reply]

/-- The moves that are still needed in a state. -/
def StageTwoState.needed : StageTwoState → List Session.Move
  | .idle => []
  | .addressCheck walk => StageTwoWalker.rounds (leafLevel - walk.level + 1)
  | .memoryRequest walk _ =>
      .sendRead :: .answerRead :: StageTwoWalker.rounds (leafLevel - walk.level)
  | .memoryWait walk _ => .answerRead :: StageTwoWalker.rounds (leafLevel - walk.level)
  | .respond _ => [.takeAnswer]

/-- The walk is in the table, and the session knows about its read, which is allowed. -/
def StageTwoState.Fits (read : Option MemoryRequest) : StageTwoState → Prop
  | .idle | .respond _ => read = none
  | .addressCheck walk => walk.level ≤ leafLevel ∧ read = none
  | .memoryRequest walk address =>
      walk.level ≤ leafLevel ∧ address = walk.address ∧
        (protection address).accessFault = false ∧ read = none
  | .memoryWait walk address =>
      walk.level ≤ leafLevel ∧ address = walk.address ∧
        (protection address).accessFault = false ∧ read = some ⟨address, params.stageTwoId⟩

end Ahead

namespace StageTwoWalker

section Steps

variable {params : Params} {registers : Registers} {protection : Protection} {partners : Partners}

theorem deeds_of_denied
    {walk : GuestWalk} (denied : (protection walk.address).accessFault = true) :
    walk.deeds params registers partners (walk.journey params registers protection partners) =
      [.answers (walk.reply registers {} false true)] :=
  GuardedTree.deeds_visit_of_denied partners _ _ _ denied

/-- The journey on from an entry that a walk has read. -/
private def followed (params : Params) (registers : Registers) (protection : Protection)
    (partners : Partners) (walk : GuestWalk) (pte : Pte) : Journey :=
  let tree := GuestWalk.tree params registers protection partners
  tree.follow walk.level walk.table pte
    (tree.onward walk.request.gvpn (leafLevel - walk.level) walk.level)

variable (params registers partners) in
theorem deeds_of_allowed
    {walk : GuestWalk} (allowed : (protection walk.address).accessFault = false) :
    walk.deeds params registers partners (walk.journey params registers protection partners) =
      .reads ⟨walk.address, params.stageTwoId⟩ ::
        .refills (walk.refill walk.address (partners.memory.readBlock walk.address)) ::
        walk.deeds params registers partners
          (followed params registers protection partners walk
            ⟨entryAt (partners.memory.readBlock walk.address) walk.address⟩) :=
  GuardedTree.deeds_visit_of_allowed partners _ _ _ rfl allowed

/-- What a walk does after a read is what lies ahead of the state that it goes on in. -/
theorem ahead_of_followed
    {walk : GuestWalk} {pte : Pte} {after : StageTwoState} (bound : walk.level ≤ leafLevel)
    (followed : Followed params registers walk pte after) :
    after.ahead params registers protection partners =
      walk.deeds params registers partners
        (StageTwoWalker.followed params registers protection partners walk pte) := by
  let tree := GuestWalk.tree params registers protection partners
  cases followed with
  | accessFault outside =>
      have ends : tree.ending? pte walk.level = some .accessFault :=
        TableTree.ending_of_outside outside
      rw [StageTwoWalker.followed, GuardedTree.follow_of_ending ends]
      rfl
  | pageFault inside fault =>
      have ends : tree.ending? pte walk.level = some .pageFault :=
        TableTree.ending_of_pageFault inside fault
      rw [StageTwoWalker.followed, GuardedTree.follow_of_ending ends]
      rfl
  | leaf inside sound leaf =>
      have ends : tree.ending? pte walk.level = some .leaf :=
        TableTree.ending_of_leaf inside sound leaf
      rw [StageTwoWalker.followed, GuardedTree.follow_of_ending ends]
      rfl
  | descend inside sound pointer =>
      have onwards : tree.ending? pte walk.level = none :=
        TableTree.ending_eq_none_iff.2 ⟨inside, sound, pointer⟩
      have upper := Pte.level_of_pointer sound pointer
      have levels : leafLevel - walk.level = leafLevel - (walk.level + 1) + 1 := by omega
      rw [StageTwoWalker.followed, GuardedTree.follow_of_pointer onwards, levels]
      rfl

theorem needed_of_followed
    {walk : GuestWalk} {pte : Pte} {after : StageTwoState} (bound : walk.level ≤ leafLevel)
    (followed : Followed params registers walk pte after) :
    after.needed.Sublist (rounds (leafLevel - walk.level)) ∧
      after.Fits params protection none := by
  cases followed with
  | accessFault | pageFault | leaf => exact ⟨takeAnswer_sublist_rounds _, rfl⟩
  | descend inside sound pointer =>
      have upper := Pte.level_of_pointer sound pointer
      refine ⟨rounds_sublist ?_, ?_, rfl⟩
      · change leafLevel - (walk.level + 1) + 1 ≤ leafLevel - walk.level
        omega
      · change walk.level + 1 ≤ leafLevel
        omega

/-- A step keeps what lies ahead: a denied address ends the walk, as its journey does. -/
theorem ticked_advances
    {before after : StageTwoState} {read : Option MemoryRequest}
    (ticked : Ticked registers protection before after)
    (fits : before.Fits params protection read) :
    after.Fits params protection read ∧
      after.ahead params registers protection partners =
        before.ahead params registers protection partners ∧
      Session.Progress .tick before.needed after.needed := by
  cases ticked with
  | denied walk due denied =>
      subst due
      refine ⟨fits.2, (deeds_of_denied denied).symm, Session.progress_of_due _ ?_⟩
      exact ((takeAnswer_sublist_rounds _).cons _).cons _
  | passed walk due allowed =>
      subst due
      exact ⟨⟨fits.1, rfl, allowed, fits.2⟩, rfl,
        Session.progress_of_due _ (List.Sublist.refl _)⟩
  | unchecked notDue =>
      refine ⟨fits, rfl, Session.progress_of_early ?_⟩
      cases before with
      | addressCheck walk => exact absurd rfl (notDue walk)
      | idle | memoryRequest | memoryWait | respond => simp [StageTwoState.needed]

/-- The session is on course: the walker is where it knows of. -/
def OnCourse (params : Params) (protection : Protection)
    (session : Session StageTwoWalker StageTwoReply) : Prop :=
  session.walker.state.Fits params protection session.read ∧ session.page = none

/-- A move keeps the session on course. -/
def Advances (params : Params) (registers : Registers) (protection : Protection)
    (partners : Partners) (move : Session.Move)
    (session : Session StageTwoWalker StageTwoReply) : Prop :=
  Session.Advances (OnCourse params protection)
    (fun walker => walker.state.ahead params registers protection partners)
    (fun walker => walker.state.needed) move session
    (session.perform (service params registers protection) partners move)

variable {partners : Partners} {session : Session StageTwoWalker StageTwoReply}

private theorem advances_tick
    (fits : OnCourse params protection session) :
    Advances params registers protection partners .tick session := by
  obtain ⟨ticked, uneventful⟩ := tick_cases params registers protection session.walker
  obtain ⟨next, ahead, progress⟩ := ticked_advances ticked fits.1
  exact ⟨uneventful.running, ⟨next, fits.2⟩, congrArg (session.deeds ++ ·) ahead, progress⟩

private theorem advances_sendRead
    (fits : OnCourse params protection session) :
    Advances params registers protection partners .sendRead session := by
  simp only [Advances, Session.perform, service]
  cases wanted : session.walker.memoryRequest? params with
  | none =>
      refine Session.advances_of_early fits ?_
      cases state : session.walker.state with
      | memoryRequest walk address => simp [memoryRequest?, state] at wanted
      | _ => simp [StageTwoState.needed, rounds]
  | some request =>
      obtain ⟨walk, state, reader, next, uneventful⟩ := fireMemory_spec params wanted
      obtain ⟨here, unasked⟩ := fits
      rw [state] at here
      obtain ⟨bound, address, allowed, _⟩ := here
      have same : request = ⟨walk.address, params.stageTwoId⟩ := by
        rw [← address, ← reader]
      rw [address] at allowed
      have deeds := deeds_of_allowed params registers partners allowed
      refine ⟨uneventful.running, ⟨?_, unasked⟩, ?_, ?_⟩
      · simp only [Outcome.map_state, next]
        exact ⟨bound, address, by rw [address]; exact allowed, by rw [← reader]⟩
      · simp only [Outcome.map_state, next, state, StageTwoState.ahead]
        rw [deeds, same, List.append_assoc]
        rfl
      · simp only [Outcome.map_state, next, state]
        exact Session.progress_of_due _ (List.Sublist.refl _)

private theorem advances_answerRead
    (fits : OnCourse params protection session) :
    Advances params registers protection partners .answerRead session := by
  simp only [Advances, Session.perform, service]
  cases asked : session.read with
  | none =>
      refine Session.advances_of_early fits ?_
      cases state : session.walker.state with
      | memoryWait walk address =>
          have here := fits.1
          rw [state] at here
          exact absurd (asked.symm.trans here.2.2.2) (Option.some_ne_none _).symm
      | _ => simp [StageTwoState.needed, rounds]
  | some request =>
      obtain ⟨here, unasked⟩ := fits
      rw [asked] at here
      cases state : session.walker.state with
      | memoryWait walk address =>
          rw [state] at here
          obtain ⟨bound, rfl, allowed, same⟩ := here
          cases same
          obtain ⟨followed, uneventful⟩ := takeBlock_cases params registers
            (partners.memory.readBlock walk.address) state
          obtain ⟨fewer, next⟩ := needed_of_followed bound followed
          have deeds := deeds_of_allowed params registers partners allowed
          refine ⟨uneventful.running, ⟨next, unasked⟩, ?_, ?_⟩
          · simp only [Outcome.map_state]
            rw [ahead_of_followed bound followed, state, refill_of_memoryWait state,
              List.append_assoc]
            simp only [StageTwoState.ahead, deeds]
            rfl
          · simp only [Outcome.map_state, state]
            exact Session.progress_of_due _ fewer
      | idle | respond =>
          rw [state] at here
          cases here
      | addressCheck walk =>
          rw [state] at here
          cases here.2
      | memoryRequest walk address =>
          rw [state] at here
          cases here.2.2.2

private theorem advances_takeAnswer
    (fits : OnCourse params protection session) :
    Advances params registers protection partners .takeAnswer session := by
  simp only [Advances, Session.perform, service]
  cases finished : session.walker.reply? with
  | none =>
      refine Session.advances_of_early fits ?_
      cases state : session.walker.state with
      | respond reply => simp [reply?, state] at finished
      | _ => simp [StageTwoState.needed, rounds]
  | some reply =>
      have state := state_of_reply finished
      obtain ⟨next, uneventful⟩ := takeReply_spec params finished
      obtain ⟨here, unasked⟩ := fits
      rw [state] at here
      refine ⟨uneventful.running, ⟨?_, unasked⟩, ?_, ?_⟩
      · simp only [Outcome.map_state, next]
        exact here
      · simp only [Outcome.map_state, next, state, StageTwoState.ahead, List.append_nil]
      · simp only [Outcome.map_state, next, state]
        exact Session.progress_of_due _ (List.Sublist.refl _)

theorem advances
    (fits : OnCourse params protection session) (move : Session.Move) :
    Advances params registers protection partners move session := by
  have early (move : Session.Move) (never : move = .sendPage ∨ move = .answerPage) :
      session.walker.state.needed.head? ≠ some move := by
    rcases never with rfl | rfl <;> cases session.walker.state <;>
      simp [StageTwoState.needed, rounds]
  cases move with
  | tick => exact advances_tick fits
  | sendRead => exact advances_sendRead fits
  | answerRead => exact advances_answerRead fits
  | sendPage => exact Session.advances_of_early fits (early _ (.inl rfl))
  | answerPage =>
      simp only [Advances, Session.perform, fits.2]
      exact Session.advances_of_early fits (early _ (.inr rfl))
  | takeAnswer => exact advances_takeAnswer fits

end Steps

/-! ## Whole sessions -/

/-- What a session with the walker does for a request, from first to last. -/
def course (params : Params) (registers : Registers) (protection : Protection)
    (partners : Partners) (request : StageTwoRequest) : List (Deed StageTwoReply) :=
  (request.journey (GuestWalk.tree params registers protection partners)).deeds partners
    params.stageTwoId request.lookup (request.conclude registers)

private theorem start_eq (registers : Registers) (request : StageTwoRequest) :
    GuestWalk.start registers request =
      ⟨request, (request.origin registers.hgatp.ppn).1,
        (request.origin registers.hgatp.ppn).2⟩ := by
  unfold GuestWalk.start StageTwoRequest.origin
  split
  · rfl
  · split <;> rfl

private theorem ended_of_needed
    (params : Params) (registers : Registers) (protection : Protection) (partners : Partners)
    {state : StageTwoState} (done : state.needed = []) :
    state.ahead params registers protection partners = [] ∧ state = .idle := by
  cases state with
  | idle => exact ⟨rfl, rfl⟩
  | addressCheck | memoryRequest | memoryWait | respond => cases done

/-- Right after a walk was accepted its whole course lies ahead. -/
private theorem ahead_of_accepted
    (params : Params) (registers : Registers) (protection : Protection) (partners : Partners)
    (request : StageTwoRequest) {walker : StageTwoWalker} (ready : walker.ready = true) :
    let accepted := (walker.accept params registers request).state.state
    accepted.Fits params protection none ∧
      accepted.ahead params registers protection partners =
        course params registers protection partners request ∧
      accepted.needed.Sublist (rounds 3) := by
  let tree := GuestWalk.tree params registers protection partners
  have level := request.origin_level tree.root
  have start := start_eq registers request
  obtain ⟨_, ⟨wide, state⟩ | ⟨narrow, state⟩⟩ := accept_cases params registers request ready
  · have uncovered : tree.covers request.gvpn = false := by
      rw [start] at wide
      simpa [tree, TableTree.covers, GuestWalk.isWide, GuestWalk.tree,
        Setting.guardedGuestTree, Setting.guestTree] using wide
    rw [state, start]
    refine ⟨rfl, ?_, takeAnswer_sublist_rounds 3⟩
    rw [course, StageTwoRequest.journey_of_wide uncovered]
    rfl
  · have covered : tree.covers request.gvpn = true := by
      rw [start] at narrow
      simpa [tree, TableTree.covers, GuestWalk.isWide, GuestWalk.tree,
        Setting.guardedGuestTree, Setting.guestTree] using narrow
    rw [state, start]
    refine ⟨⟨level, rfl⟩, ?_, rounds_sublist ?_⟩
    · rw [course, StageTwoRequest.journey_of_covered covered]
      rfl
    · change leafLevel - (request.origin registers.hgatp.ppn).1 + 1 ≤ 3
      unfold leafLevel
      omega

/-- A session with the second-stage walker, for any request, with any steps of the walker in
between, makes the journey of the guest page and nothing else. -/
theorem served_of_session
    (params : Params) (registers : Registers) (protection : Protection) (partners : Partners)
    (request : StageTwoRequest) {walker : StageTwoWalker} (ready : walker.ready = true)
    (moves : List Session.Move) :
    let accepted := walker.accept params registers request
    accepted.fault = none ∧
      Session.Served (·.isIdle = true) (course params registers protection partners request)
        (rounds 3) moves
        (Session.run (service params registers protection) partners moves
          { walker := accepted.state }) ∧
      request.Travels (GuestWalk.tree params registers protection partners) := by
  intro accepted
  obtain ⟨fits, ahead, needed⟩ :=
    ahead_of_accepted params registers protection partners request ready
  refine ⟨(accept_cases params registers request ready).1.running,
    Session.served_of_advances (fun move session fits => advances fits move) ?_
      (⟨fits, rfl⟩ : OnCourse params protection { walker := accepted.state }) ahead needed moves,
    request.travels fun _ => rfl⟩
  intro ended done
  obtain ⟨nothing, idle⟩ := ended_of_needed params registers protection partners done
  exact ⟨nothing, by simp [isIdle, idle]⟩

/-- A walk from a table that its request knows finds a superpage there with one read. -/
theorem served_of_small_session :
    let partners : Partners := { memory := ({} : Memory).setWord 0x101010 0x800cf }
    let request : StageTwoRequest := { id := 7, gvpn := 0x400, rootHit := true, ppn := 0x101 }
    let walker : StageTwoWalker := {}
    let moves : List Session.Move := .tick :: rounds 3
    let accepted := walker.accept .small {} request
    let outcome := Session.run (service .small {} .allowAll) partners moves
      { walker := accepted.state }
    walker.ready = true ∧ (rounds 3).Sublist moves ∧
      outcome.state.deeds.map (fun deed => match deed with
        | .reads read => some read.address
        | .answers reply => some reply.result.ppn
        | .refills _ | .asks _ | .hears _ => none) = [some 0x101010, none, some 0x200] ∧
      accepted.fault = none ∧
      Session.Served (·.isIdle = true) (course .small {} .allowAll partners request) (rounds 3)
        moves outcome ∧
      request.Travels (GuestWalk.tree .small {} .allowAll partners) := by
  intro partners request walker moves accepted outcome
  exact ⟨rfl, List.sublist_cons_self .., by decide +kernel,
    served_of_session .small {} .allowAll partners request rfl moves⟩

end StageTwoWalker

end PageWalk
