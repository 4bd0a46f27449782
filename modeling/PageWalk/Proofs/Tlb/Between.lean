import PageWalk.Proofs.Cache.Corruption
import PageWalk.Proofs.Lockstep.Memory
import PageWalk.Proofs.Tlb.Runs

/-!
# Between two commands

What holds of a TLB between two commands of a run that nothing has stopped: the cache
and the memory are ready for the next step, and no read on its way is overdue. What was
chosen when the TLB was built stays as it is.
-/

namespace PageWalk

/-! ## The arbiters of the leaf walker -/

namespace LeafWalker

/-- Every arbiter has as many inputs as before. -/
structure SameArbiters (walker after : LeafWalker) : Prop where
  memory : after.memoryArbiter.inputs = walker.memoryArbiter.inputs
  table : after.tableArbiter.inputs = walker.tableArbiter.inputs
  last : after.lastArbiter.inputs = walker.lastArbiter.inputs

theorem SameArbiters.refl (walker : LeafWalker) : SameArbiters walker walker :=
  ⟨rfl, rfl, rfl⟩

theorem SameArbiters.trans
    {walker middle after : LeafWalker} (left : SameArbiters walker middle)
    (right : SameArbiters middle after) : SameArbiters walker after where
  memory := right.memory.trans left.memory
  table := right.table.trans left.table
  last := right.last.trans left.last

private theorem place_sameArbiters (params : Params) (index : Nat) (walker : LeafWalker) :
    SameArbiters walker (place params index walker).state := by
  unfold place
  dsimp only
  split
  · exact ⟨rfl, rfl, rfl⟩
  · split <;> exact ⟨rfl, rfl, rfl⟩

theorem accept_sameArbiters (params : Params) (leaf : LeafRequest) (walker : LeafWalker) :
    SameArbiters walker (accept params leaf walker).state := by
  unfold accept
  split
  · unfold acceptAt
    dsimp only
    split
    · exact ⟨rfl, rfl, rfl⟩
    · refine Outcome.andThen_state_induction ⟨rfl, rfl, rfl⟩ fun _ before => ?_
      split
      · exact { before with }
      · exact before.trans (place_sameArbiters params _ _)
  · exact .refl walker

theorem fireMemory_sameArbiters (params : Params) (walker : LeafWalker) :
    SameArbiters walker (fireMemory params walker).state := by
  unfold fireMemory
  split <;> exact ⟨rfl, rfl, rfl⟩

theorem takeBlock_sameArbiters
    (params : Params) (id : Nat) (block : Block) (walker : LeafWalker) :
    SameArbiters walker (takeBlock params id block walker).state := by
  unfold takeBlock
  split
  · exact .refl walker
  · split
    · exact .refl walker
    · exact ⟨rfl, rfl, rfl⟩

theorem fireStageTwo_sameArbiters (params : Params) (walker : LeafWalker) :
    SameArbiters walker (fireStageTwo params walker).state := by
  unfold fireStageTwo
  split
  · exact .refl walker
  · dsimp only
    split
    · exact ⟨rfl, rfl, rfl⟩
    · exact ⟨rfl, rfl, rfl⟩
    · exact ⟨rfl, rfl, rfl⟩

private theorem deliverStageTwo_sameArbiters
    (params : Params) (id : Nat) (result : StageTwoResult) (index : Nat)
    (walker : LeafWalker) :
    SameArbiters walker (deliverStageTwo params id result index walker).state := by
  unfold deliverStageTwo
  dsimp only
  split
  · split
    · exact ⟨rfl, rfl, rfl⟩
    · exact { place_sameArbiters params index _ with }
  · split <;> exact ⟨rfl, rfl, rfl⟩

theorem takeStageTwo_sameArbiters
    (params : Params) (id : Nat) (result : StageTwoResult) (walker : LeafWalker) :
    SameArbiters walker (takeStageTwo params id result walker).state := by
  unfold takeStageTwo
  split
  · exact .refl walker
  · refine Outcome.forEach_state_induction (fun index _ state before => ?_) ⟨rfl, rfl, rfl⟩
    exact before.trans (deliverStageTwo_sameArbiters params id result index state)

theorem takeFinished_sameArbiters (params : Params) (walker : LeafWalker) :
    SameArbiters walker (takeFinished params walker).state := by
  unfold takeFinished
  split <;> exact ⟨rfl, rfl, rfl⟩

private theorem checkAddress_sameArbiters
    (params : Params) (protection : Protection) (index : Nat) (walker : LeafWalker) :
    SameArbiters walker (checkAddress params protection index walker).state := by
  unfold checkAddress
  dsimp only
  split
  · split
    · exact ⟨rfl, rfl, rfl⟩
    · exact ⟨rfl, rfl, rfl⟩
  · exact .refl walker

private theorem tickEntry_sameArbiters
    (params : Params) (protection : Protection) (index : Nat) (walker : LeafWalker) :
    SameArbiters walker (tickEntry params protection index walker).state :=
  Outcome.andThen_state_induction (checkAddress_sameArbiters params protection index walker)
    fun _ before => { before with }

theorem tick_sameArbiters (params : Params) (protection : Protection) (walker : LeafWalker) :
    SameArbiters walker (tick params protection walker).state := by
  refine Outcome.andThen_state_induction ?_ fun _ before => { before with }
  refine Outcome.forEach_state_induction (fun index _ state before => ?_) (.refl walker)
  exact before.trans (tickEntry_sameArbiters params protection index state)

end LeafWalker

/-! ## The code of the cache -/

namespace Cache

/-- The code that protects the lines is the one from before. -/
def SameCode (cache after : Cache) : Prop :=
  after.code = cache.code

/-- After a step that nothing has stopped, refills are accepted again. -/
theorem tick_flags
    {params : Params} {registers : Registers} {cache : Cache}
    (running : (tick params registers cache).fault = none) :
    (tick params registers cache).state.refilled = false ∧
      (tick params registers cache).state.flushed = false := by
  obtain ⟨responded, running⟩ := Outcome.running_of_andThen running
  obtain ⟨checked, -⟩ := Outcome.running_of_andThen running
  unfold tick
  rw [Outcome.andThen_state_of_running _ responded, Outcome.andThen_state_of_running _ checked]
  exact ⟨rfl, rfl⟩

end Cache

/-! ## What a step leaves of the TLB -/

namespace Tlb

/-- What was chosen when the TLB was built has stayed. -/
structure Built (tlb after : Tlb) : Prop where
  params : after.params = tlb.params
  protection : after.protection = tlb.protection
  arbiters : tlb.leaf.SameArbiters after.leaf
  code : tlb.cache.SameCode after.cache
  inputs : after.inputs.capacity = tlb.inputs.capacity

theorem Built.refl (tlb : Tlb) : Built tlb tlb :=
  ⟨rfl, rfl, .refl _, rfl, rfl⟩

theorem Built.trans
    {tlb middle after : Tlb} (first : Built tlb middle) (second : Built middle after) :
    Built tlb after where
  params := second.params.trans first.params
  protection := second.protection.trans first.protection
  arbiters := first.arbiters.trans second.arbiters
  code := second.code.trans first.code
  inputs := second.inputs.trans first.inputs

/-- A phase that leaves the memory alone. -/
structure Quiet (tlb after : Tlb) : Prop extends Built tlb after where
  memory : after.memory = tlb.memory

theorem Quiet.refl (tlb : Tlb) : Quiet tlb tlb :=
  ⟨.refl tlb, rfl⟩

theorem Quiet.trans
    {tlb middle after : Tlb} (first : Quiet tlb middle) (second : Quiet middle after) :
    Quiet tlb after :=
  ⟨first.toBuilt.trans second.toBuilt, second.memory.trans first.memory⟩

variable {readsBefore : Nat} {tlb after : Tlb}

private theorem PageDelivered.quiet
    {ticket : Option (Nat × Word)} {id : Nat} {page : Word} {result : StageTwoResult}
    (delivered : PageDelivered tlb ticket id page result after) : Quiet tlb after := by
  cases delivered with
  | upper => exact { Quiet.refl tlb with }
  | leaf =>
      exact
        { Quiet.refl tlb with arbiters := LeafWalker.takeStageTwo_sameArbiters _ _ _ _ }

private theorem Replied.quiet
    {ticket : Option (Nat × Word)} (replied : Replied tlb ticket after) : Quiet tlb after := by
  cases replied with
  | nothing => exact .refl tlb
  | delivered _ _ delivered => exact { delivered.quiet with }

private theorem Dispatched.quiet
    {dropped : List Request} (dispatched : Dispatched tlb after dropped) : Quiet tlb after := by
  cases dispatched with
  | nothing => exact .refl tlb
  | handed =>
      exact { Quiet.refl tlb with arbiters := LeafWalker.accept_sameArbiters _ _ _ }

private theorem AnswerRouted.quiet
    {ticket : Option (Nat × Word)} {dropped : List Request}
    (routed : AnswerRouted tlb ticket after dropped) : Quiet tlb after := by
  cases routed with
  | nothing => exact .refl tlb
  | probe answer _ _ routed =>
      cases routed with
      | hit _ _ delivered => exact { delivered.quiet with }
      | queued => exact { Quiet.refl tlb with code := rfl }
  | lookup answer _ _ routed =>
      cases routed with
      | hit | parked | upper => exact { Quiet.refl tlb with code := rfl }
      | leaf =>
          exact
            { Quiet.refl tlb with
              arbiters := LeafWalker.accept_sameArbiters _ _ _
              code := rfl }

private theorem UpperCollected.quiet (collected : UpperCollected tlb after) :
    Quiet tlb after := by
  cases collected with
  | nothing | answered => exact { Quiet.refl tlb with }

private theorem LeafCollected.quiet (collected : LeafCollected tlb after) : Quiet tlb after := by
  cases collected with
  | nothing => exact .refl tlb
  | answered =>
      exact { Quiet.refl tlb with arbiters := LeafWalker.takeFinished_sameArbiters _ _ }

private theorem tickWalkers_quiet (tlb : Tlb) : Quiet tlb tlb.tickWalkers.state := by
  rw [(tickWalkers_spec tlb).1]
  exact { Quiet.refl tlb with arbiters := LeafWalker.tick_sameArbiters _ _ _ }

private theorem PageStarted.quiet (started : PageStarted tlb after) : Quiet tlb after := by
  cases started with
  | nothing | started => exact { Quiet.refl tlb with }

private theorem CacheFed.quiet (fed : CacheFed tlb after) : Quiet tlb after := by
  cases fed with
  | nothing | upper | miss => exact { Quiet.refl tlb with code := rfl }
  | leaf =>
      exact
        { Quiet.refl tlb with
          arbiters := LeafWalker.fireStageTwo_sameArbiters _ _
          code := rfl }
  | input => exact { Quiet.refl tlb with code := rfl, inputs := rfl }

private theorem refillCache_quiet (refill : Option Refill) (tlb : Tlb) :
    Quiet tlb (refillCache refill tlb).state := by
  unfold refillCache
  split
  · exact { Quiet.refl tlb with code := Cache.code_refill _ _ _ _ }
  · exact .refl tlb

private theorem deliverBlock_quiet (id : Nat) (block : Block) (tlb : Tlb) :
    Quiet tlb (deliverBlock id block tlb).state := by
  unfold deliverBlock
  split
  · refine Outcome.andThen_state_induction { Quiet.refl tlb with } fun _ before => ?_
    exact before.trans (refillCache_quiet _ _)
  · split
    · refine Outcome.andThen_state_induction { Quiet.refl tlb with } fun _ before => ?_
      exact before.trans (refillCache_quiet _ _)
    · refine Outcome.andThen_state_induction ?_ fun _ before => ?_
      · exact { Quiet.refl tlb with arbiters := LeafWalker.takeBlock_sameArbiters _ _ _ _ }
      · exact before.trans (refillCache_quiet _ _)

private theorem acceptReply_quiet (reply : MemoryReply) (tlb : Tlb) :
    Quiet tlb (acceptReply reply tlb).state := by
  unfold acceptReply
  split
  · exact .refl tlb
  · exact .refl tlb
  · dsimp only
    split
    · exact { Quiet.refl tlb with }
    · exact { deliverBlock_quiet _ _ _ with }

private theorem receiveBlock_built (tlb : Tlb) :
    Built tlb tlb.receiveBlock.state ∧ tlb.receiveBlock.state.memory = tlb.memory.served := by
  unfold receiveBlock Memory.receive? Memory.served
  cases tlb.memory.dueReply? with
  | none => exact ⟨.refl tlb, rfl⟩
  | some reply =>
      have taken : Quiet { tlb with memory := tlb.memory.dropOldest }
          (acceptReply reply { tlb with memory := tlb.memory.dropOldest }).state :=
        acceptReply_quiet reply _
      exact ⟨{ taken with }, taken.memory⟩

private theorem sendRead_built (tlb : Tlb) :
    Built tlb tlb.sendRead.state ∧
      (tlb.sendRead.state.memory = tlb.memory ∨
        ∃ request, tlb.sendRead.state.memory = tlb.memory.accept request) := by
  have sent := (sendRead_cases tlb).1
  generalize tlb.sendRead.state = after at sent
  cases sent with
  | nothing => exact ⟨.refl tlb, Or.inl rfl⟩
  | sent request _ told =>
      cases told with
      | upper | stageTwo => exact ⟨{ Built.refl tlb with }, Or.inr ⟨request, rfl⟩⟩
      | leaf =>
          refine ⟨{ Built.refl tlb with arbiters := ?_ }, Or.inr ⟨request, rfl⟩⟩
          exact LeafWalker.fireMemory_sameArbiters _ _

/-! ## A whole step -/

/-- The phases between the reply of the memory and the next read. -/
private def beforeRead : List (Tlb → Outcome Tlb) :=
  [routeReply, dispatch, routeAnswer, collectUpper, collectLeaf, tickWalkers]

/-- The phases between the next read and the step of the cache. -/
private def afterRead : List (Tlb → Outcome Tlb) :=
  [startGuestPage, feedCache]

private theorem quiet_phase
    {phase : Tlb → Outcome Tlb} (member : phase ∈ beforeRead ++ afterRead)
    (coherent : Coherent readsBefore tlb) : Quiet tlb (phase tlb).state := by
  obtain ⟨ticket, tracked⟩ := coherent.pages
  simp only [beforeRead, afterRead, List.cons_append, List.nil_append, List.mem_cons,
    List.not_mem_nil, or_false] at member
  rcases member with rfl | rfl | rfl | rfl | rfl | rfl | rfl | rfl
  · exact (routeReply_cases tracked).1.quiet
  · exact (dispatch_cases tlb).1.quiet
  · exact (routeAnswer_cases tracked coherent.queues).1.quiet
  · exact (collectUpper_cases tlb).1.quiet
  · exact (collectLeaf_cases tlb).1.quiet
  · exact tickWalkers_quiet tlb
  · exact (startGuestPage_cases tlb).1.quiet
  · exact (feedCache_cases tlb).1.quiet

private theorem quiet_phases
    {others : List (Tlb → Outcome Tlb)} (member : ∀ phase ∈ others, phase ∈ phases)
    (quiet : ∀ phase ∈ others, phase ∈ beforeRead ++ afterRead)
    (coherent : Coherent readsBefore tlb) :
    let after := (Outcome.forEach (fun phase tlb => phase tlb) others tlb).state
    Coherent readsBefore after ∧ Quiet tlb after := by
  let settled (after : Tlb) : Prop := Coherent readsBefore after ∧ Quiet tlb after
  have kept (phase : Tlb → Outcome Tlb) (here : phase ∈ others) (state : Tlb)
      (before : settled state) : settled (phase state).state :=
    ⟨(before.1.phase (member phase here)).coherent,
      before.2.trans (quiet_phase (quiet phase here) before.1)⟩
  exact Outcome.forEach_state_induction kept ⟨coherent, .refl tlb⟩

theorem Coherent.phase_built
    {phase : Tlb → Outcome Tlb} (member : phase ∈ phases) (coherent : Coherent readsBefore tlb) :
    Built tlb (phase tlb).state := by
  by_cases quiet : phase ∈ beforeRead ++ afterRead
  · exact (quiet_phase quiet coherent).toBuilt
  · simp only [beforeRead, afterRead, List.cons_append, List.nil_append, List.mem_cons,
      List.not_mem_nil, or_false, not_or] at quiet
    simp only [phases, List.mem_cons, List.not_mem_nil, or_false, quiet, false_or] at member
    rcases member with rfl | rfl | rfl | rfl
    · exact (receiveBlock_built tlb).1
    · exact (sendRead_built tlb).1
    · exact { Built.refl tlb with code := Cache.code_tick _ _ _ }
    · exact { Built.refl tlb with }

theorem Coherent.tick_built (coherent : Coherent readsBefore tlb) :
    Built tlb tlb.tick.state := by
  let settled (after : Tlb) : Prop := Coherent readsBefore after ∧ Built tlb after
  have kept (phase : Tlb → Outcome Tlb) (member : phase ∈ phases) (state : Tlb)
      (before : settled state) : settled (phase state).state :=
    ⟨(before.1.phase member).coherent, before.2.trans (before.1.phase_built member)⟩
  have last : settled tlb.tick.state :=
    Outcome.forEach_state_induction kept ⟨coherent, .refl tlb⟩
  exact last.2

/-- A step that nothing has stopped leaves the cache and the memory ready for the
next one. -/
theorem Coherent.tick_ready
    (coherent : Coherent readsBefore tlb) (running : tlb.tick.fault = none) :
    Memory.Stepped tlb.memory tlb.tick.state.memory ∧
      tlb.tick.state.cache.refilled = false ∧ tlb.tick.state.cache.flushed = false := by
  let last : List (Tlb → Outcome Tlb) :=
    [fun tlb => tlb.onCache (Cache.tick tlb.params tlb.registers), Tlb.endStep]
  have parts :
      phases = Tlb.receiveBlock :: (beforeRead ++ Tlb.sendRead :: (afterRead ++ last)) := rfl
  unfold Tlb.tick at running ⊢
  rw [parts] at running ⊢
  obtain ⟨-, running, received⟩ := Outcome.running_of_cons running
  obtain ⟨-, running, routed⟩ := Outcome.running_of_append running
  obtain ⟨-, running, sent⟩ := Outcome.running_of_cons running
  obtain ⟨-, running, fed⟩ := Outcome.running_of_append running
  obtain ⟨stepped, -, ended⟩ := Outcome.running_of_cons running
  rw [received, routed, sent, fed, ended]
  have first := coherent.receiveBlock.coherent
  have second :=
    quiet_phases
      (fun phase (here : phase ∈ beforeRead) => by
        rw [parts]
        exact List.mem_cons_of_mem _ (List.mem_append_left _ here))
      (fun phase here => List.mem_append_left _ here) first
  have third := second.1.sendRead.coherent
  have fourth :=
    quiet_phases
      (fun phase (here : phase ∈ afterRead) => by
        rw [parts]
        exact List.mem_cons_of_mem _ (List.mem_append_right _
          (List.mem_cons_of_mem _ (List.mem_append_left _ here))))
      (fun phase here => List.mem_append_right _ here) third
  refine ⟨?_, Cache.tick_flags stepped⟩
  have before := second.2.memory.trans (receiveBlock_built tlb).2
  change
    Memory.Stepped tlb.memory
      (Memory.tick
        (Outcome.forEach (fun (phase : Tlb → Outcome Tlb) tlb => phase tlb) afterRead
          _).state.memory)
  rw [fourth.2.memory]
  rcases (sendRead_built _).2 with same | ⟨request, same⟩
  · rw [same, before]
    exact .quiet
  · rw [same, before]
    exact .sent request

/-! ## Runs that nothing has stopped -/

/-- What holds between two commands. -/
structure Rested (tlb : Tlb) : Prop where
  coherent : ∃ readsBefore, Coherent readsBefore tlb
  timely : tlb.memory.Timely
  accepted : tlb.memory.accepted = false
  refilled : tlb.cache.refilled = false

/-- A command that is no step leaves the reads on their way alone. -/
structure Still (tlb after : Tlb) : Prop extends Built tlb after where
  pending : after.memory.pending = tlb.memory.pending
  cycle : after.memory.cycle = tlb.memory.cycle
  latency : after.memory.latency = tlb.memory.latency
  accepted : after.memory.accepted = tlb.memory.accepted
  refilled : after.cache.refilled = tlb.cache.refilled

private theorem Still.refl (tlb : Tlb) : Still tlb tlb :=
  ⟨.refl tlb, rfl, rfl, rfl, rfl, rfl⟩

private theorem still_flush (tlb : Tlb) : Still tlb tlb.flush :=
  { Still.refl tlb with arbiters := ⟨rfl, rfl, rfl⟩, code := rfl, inputs := rfl }

private theorem still_send (request : Request) (tlb : Tlb) :
    Still tlb ((tlb.send? request).getD { state := tlb }).state := by
  unfold send?
  split
  · cases queued : tlb.inputs.send? request with
    | none => exact .refl tlb
    | some inputs => exact { Still.refl tlb with inputs := (elements_of_send queued).2 }
  · exact .refl tlb

private theorem still_install (registers : Registers) (tlb : Tlb) :
    Still tlb (Tlb.install registers tlb).state := by
  unfold Tlb.install
  dsimp only
  split
  · exact { still_flush { tlb with registers := registers.settled } with }
  · exact { Still.refl tlb with }

private theorem still_write (address data : Word) (tlb : Tlb) :
    Still tlb (Tlb.write address data tlb).state := by
  unfold Tlb.write Memory.writeWord
  split
  · rename_i memory written
    split at written
    · cases written
    · cases written
      exact { Still.refl tlb with }
  · exact .refl tlb

private theorem still_corrupt (level : Nat) (set way : UInt32) (tlb : Tlb) :
    Still tlb (Tlb.corrupt level set way tlb).state := by
  obtain ⟨middles, sectors, same⟩ := Cache.corrupt_frame tlb.params level set way tlb.cache
  simp only [Tlb.corrupt, Outcome.map_state, same]
  exact { Still.refl tlb with code := rfl }

theorem perform_still
    {command : Command} (other : command ≠ .tick) (tlb : Tlb) :
    Still tlb (tlb.perform command).state := by
  cases command with
  | send request => exact still_send request tlb
  | receive =>
      rw [perform_receive]
      exact { Still.refl tlb with }
  | fence fence =>
      let fenced := Cache.invalidate fence tlb.registers tlb.cache.flush
      exact { still_flush { tlb with cache := fenced } with code := rfl }
  | install registers => exact still_install registers tlb
  | write address data => exact still_write address data tlb
  | corrupt level set way => exact still_corrupt level set way tlb
  | tick => exact absurd rfl other

/-- Refills are dropped after a command that flushes, and until the next step. -/
theorem perform_flushed
    {command : Command} (other : command ≠ .tick) (tlb : Tlb) :
    (tlb.perform command).state.cache.flushed = (command.flushes || tlb.cache.flushed) := by
  cases command with
  | send request =>
      change ((tlb.send? request).getD { state := tlb }).state.cache.flushed = _
      unfold send?
      split
      · cases tlb.inputs.send? request <;> rfl
      · rfl
  | receive =>
      rw [perform_receive]
      rfl
  | fence fence => rfl
  | install registers =>
      change (Tlb.install registers tlb).state.cache.flushed = (registers.changed || _)
      unfold Tlb.install
      by_cases changed : registers.changed = true
      · simp [changed, Tlb.flush, Cache.flush]
      · simp [changed]
  | write address data =>
      change (Tlb.write address data tlb).state.cache.flushed = _
      unfold Tlb.write
      split <;> rfl
  | corrupt level set way =>
      change (Cache.corrupt tlb.params level set way tlb.cache).state.flushed = _
      obtain ⟨middles, sectors, same⟩ := Cache.corrupt_frame tlb.params level set way tlb.cache
      rw [same]
      rfl
  | tick => exact absurd rfl other

theorem Rested.perform
    {command : Command} (rested : tlb.Rested) (running : (tlb.perform command).fault = none)
    (bounded : command = .tick → tlb.memory.Bounded) :
    (tlb.perform command).state.Rested := by
  obtain ⟨⟨readsBefore, coherent⟩, timely, accepted, refilled⟩ := rested
  have next := coherent.perform command
  by_cases step : command = .tick
  · subst step
    obtain ⟨stepped, still, -⟩ := coherent.tick_ready running
    exact ⟨next, timely.step (bounded rfl) stepped, stepped.accepted, still⟩
  · have still := perform_still step tlb
    exact ⟨next, timely.congr still.pending still.cycle still.latency,
      still.accepted.trans accepted, still.refilled.trans refilled⟩

theorem Rested.built (rested : tlb.Rested) (command : Command) :
    Built tlb (tlb.perform command).state := by
  obtain ⟨⟨readsBefore, coherent⟩, -, -, -⟩ := rested
  by_cases step : command = .tick
  · subst step
    exact coherent.tick_built
  · exact (perform_still step tlb).toBuilt

/-- The cycles of the memory suffice for some commands. -/
def Lasts (commands : List Command) (tlb : Tlb) : Prop :=
  tlb.memory.cycle.toNat + commands.count .tick + tlb.memory.latency.toNat < UInt64.size

instance (commands : List Command) (tlb : Tlb) : Decidable (tlb.Lasts commands) :=
  inferInstanceAs (Decidable (_ < _))

theorem Lasts.bounded
    {command : Command} {commands : List Command} (lasts : tlb.Lasts (command :: commands))
    (step : command = .tick) : tlb.memory.Bounded := by
  unfold Lasts at lasts
  unfold Memory.Bounded
  rw [step, List.count_cons_self] at lasts
  omega

theorem Lasts.perform
    {command : Command} {commands : List Command} (lasts : tlb.Lasts (command :: commands))
    (rested : tlb.Rested) (running : (tlb.perform command).fault = none) :
    (tlb.perform command).state.Lasts commands := by
  have bounded := lasts.bounded
  unfold Lasts at lasts ⊢
  by_cases step : command = .tick
  · subst step
    obtain ⟨readsBefore, coherent⟩ := rested.coherent
    have stepped := (coherent.tick_ready running).1
    have cycle := stepped.cycle (bounded rfl)
    have latency := stepped.latency
    rw [List.count_cons_self] at lasts
    change tlb.tick.state.memory.cycle.toNat + _ + tlb.tick.state.memory.latency.toNat < _
    rw [cycle, latency]
    omega
  · have still := perform_still step tlb
    rw [List.count_cons_of_ne step] at lasts
    rw [still.cycle, still.latency]
    exact lasts

/-- What a run that nothing has stopped leaves behind. -/
theorem Rested.run
    {commands others : List Command} (rested : tlb.Rested)
    (lasts : tlb.Lasts (commands ++ others))
    (running : (Outcome.forEach Tlb.perform commands tlb).fault = none) :
    let after := (Outcome.forEach Tlb.perform commands tlb).state
    after.Rested ∧ Built tlb after ∧ after.Lasts others := by
  induction commands generalizing tlb with
  | nil => exact ⟨rested, .refl tlb, lasts⟩
  | cons command commands inductionHypothesis =>
      obtain ⟨first, later, same⟩ := Outcome.running_of_cons running
      have next := rested.perform first lasts.bounded
      obtain ⟨last, built, remains⟩ :=
        inductionHypothesis next (lasts.perform rested first) later
      rw [same]
      exact ⟨last, (rested.built command).trans built, remains⟩

end Tlb

end PageWalk
