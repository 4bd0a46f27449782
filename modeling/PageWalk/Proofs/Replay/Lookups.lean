import PageWalk.Proofs.Replay.Schedule
import PageWalk.Proofs.Tlb.Rest

/-!
# The lookups of a replay

Every lookup that a replay has applied is answered, under way, or not yet taken, as long as no
operation drops lookups. A replay that has finished has applied every operation and leaves
nothing on its way, so by then every lookup was answered once.
-/

namespace PageWalk

open Trace (InOrder LookupMessage Operation)

/-! ## Roots -/

def TableRoot.SameTable (root other : TableRoot) : Prop :=
  root.space = other.space ∧ root.ppn = other.ppn

/-- Registers that differ in their marks of change and in whether a guest runs, at most. -/
structure Registers.SameRoots (registers other : Registers) : Prop where
  satp : registers.satp.SameTable other.satp
  vsatp : registers.vsatp.SameTable other.vsatp
  hgatp : registers.hgatp.SameTable other.hgatp

namespace Trace

theorem RootMessage.changed_toRoot
    (message : RootMessage) (present : TableRoot) :
    (message.toRoot present).changed = false ↔
      present.SameTable (message.toRoot present) := by
  unfold RootMessage.toRoot TableRoot.SameTable
  rw [Bool.or_eq_false_iff, bne_eq_false_iff_eq, bne_eq_false_iff_eq]
  exact and_congr eq_comm eq_comm

/-- Registers are unchanged where they have the present roots. -/
theorem RegistersMessage.changed_toRegisters
    (message : RegistersMessage) (present : Registers) :
    (message.toRegisters present).changed = false ↔
      present.SameRoots (message.toRegisters present).settled := by
  unfold Registers.changed
  rw [Bool.or_eq_false_iff, Bool.or_eq_false_iff]
  constructor
  · rintro ⟨⟨satp, vsatp⟩, hgatp⟩
    exact
      { satp := (message.satp.changed_toRoot present.satp).1 satp
        vsatp := (message.vsatp.changed_toRoot present.vsatp).1 vsatp
        hgatp := (message.hgatp.changed_toRoot present.hgatp).1 hgatp }
  · intro same
    exact
      ⟨⟨(message.satp.changed_toRoot present.satp).2 same.satp,
        (message.vsatp.changed_toRoot present.vsatp).2 same.vsatp⟩,
        (message.hgatp.changed_toRoot present.hgatp).2 same.hgatp⟩

end Trace

theorem Registers.SameRoots.trans
    {first second third : Registers} (left : first.SameRoots second)
    (right : second.SameRoots third) : first.SameRoots third where
  satp := ⟨left.satp.1.trans right.satp.1, left.satp.2.trans right.satp.2⟩
  vsatp := ⟨left.vsatp.1.trans right.vsatp.1, left.vsatp.2.trans right.vsatp.2⟩
  hgatp := ⟨left.hgatp.1.trans right.hgatp.1, left.hgatp.2.trans right.hgatp.2⟩

theorem Registers.SameRoots.symm
    {registers other : Registers} (same : registers.SameRoots other) :
    other.SameRoots registers where
  satp := ⟨same.satp.1.symm, same.satp.2.symm⟩
  vsatp := ⟨same.vsatp.1.symm, same.vsatp.2.symm⟩
  hgatp := ⟨same.hgatp.1.symm, same.hgatp.2.symm⟩

/-- The mark of change depends on the present roots alone. -/
theorem Trace.RegistersMessage.unchanged_of_sameRoots
    (message : RegistersMessage) {present other : Registers} (same : present.SameRoots other)
    (unchanged : (message.toRegisters present).changed = false) :
    (message.toRegisters other).changed = false := by
  rw [message.changed_toRegisters] at unchanged ⊢
  exact same.symm.trans { unchanged with }

/-! ## Lookups of a replay -/

/-- The lookups of the operations so far: answered, under way, and not yet taken. -/
def Replay.requests (replay : Replay) : List Request :=
  replay.answered.map (·.request) ++ replay.tlb.responses.map (·.request) ++
    replay.tlb.held ++ replay.pending

namespace Chronicle

/-- The lookups that were applied. -/
def lookups (chronicle : Chronicle) : List LookupMessage :=
  chronicle.applied.filterMap (·.2.action.lookup?)

variable {trace : Trace.Loaded} {chronicle : Chronicle}

/-- Every lookup that was applied is answered, under way, or not yet taken. -/
structure Accounted (trace : Trace.Loaded) (chronicle : Chronicle) : Prop where
  roots : trace.tlb.registers.SameRoots chronicle.replay.tlb.registers
  lookups :
    (chronicle.replay.requests.map Except.ok).Perm (chronicle.lookups.map (·.toRequest))

/-- The TLB is coherent, and where no operation drops a lookup, all are accounted for. -/
structure Steady (trace : Trace.Loaded) (chronicle : Chronicle) : Prop where
  coherent : ∃ readsBefore, Tlb.Coherent readsBefore chronicle.replay.tlb
  params : chronicle.replay.tlb.params = trace.tlb.params
  accounted : trace.KeepsLookups → Accounted trace chronicle

/-- No prefetch is among the lookups of a trace that keeps its lookups. -/
theorem Accounted.demands
    {waiting : List Operation} (recorded : Recorded trace waiting chronicle)
    (keeps : trace.KeepsLookups) (accounted : Accounted trace chronicle) :
    ∀ request ∈ chronicle.replay.requests, request.isPrefetch = false := by
  intro request member
  have converted : Except.ok request ∈ chronicle.lookups.map (·.toRequest) :=
    accounted.lookups.mem_iff.1 (List.mem_map_of_mem member)
  obtain ⟨message, applied, same⟩ := List.mem_map.1 converted
  obtain ⟨entry, here, found⟩ := List.mem_filterMap.1 applied
  have operation : entry.2 ∈ trace.operations := by
    rw [← recorded.order]
    exact List.mem_append_left _ (List.mem_map_of_mem here)
  have demand := keeps entry.2 operation
  cases action : entry.2.action with
  | lookup other =>
      rw [action] at found demand
      cases found
      have source : request.source = message.source.toUInt8 := by
        unfold LookupMessage.toRequest at same
        dsimp only at same
        split at same
        · cases same
        · cases same
          rfl
      unfold Request.isPrefetch
      rw [source]
      exact (Bool.not_eq_true' _).mp demand
  | fence _ | registers _ =>
      rw [action] at found
      cases found

theorem lookups_apply (operation : Operation) (chronicle : Chronicle) :
    (chronicle.apply operation).1.lookups =
      chronicle.lookups ++ operation.action.lookup?.toList := by
  unfold lookups Chronicle.apply
  dsimp only
  rw [List.filterMap_append]
  cases found : operation.action.lookup? with
  | none => simp [found]
  | some message => simp [found]

/-- An operation keeps the replay steady, or nothing can be made of it. -/
def Takes (trace : Trace.Loaded) (operation : Operation) (chronicle : Chronicle) : Prop :=
  ((chronicle.apply operation).2 = none ∧ Steady trace (chronicle.apply operation).1) ∨
    ∃ fault, (chronicle.apply operation).2 = some fault ∧ operation.action.RejectedWith fault

private theorem Steady.takes_lookup
    (steady : Steady trace chronicle) (step : Word) (message : LookupMessage) :
    Takes trace ⟨step, .lookup message⟩ chronicle := by
  cases converted : message.toRequest with
  | error fault =>
      have rejected : chronicle.replay.apply (.lookup message) =
          (chronicle.replay, some fault) := by
        simp only [Replay.apply, converted]
      exact Or.inr ⟨fault, congrArg Prod.snd rejected, converted⟩
  | ok request =>
      have taken : chronicle.replay.apply (.lookup message) =
          ({ chronicle.replay with pending := chronicle.replay.pending ++ [request] }, none) := by
        simp only [Replay.apply, converted]
      have applied := lookups_apply ⟨step, .lookup message⟩ chronicle
      unfold Takes
      unfold Chronicle.apply at applied ⊢
      rw [taken] at applied ⊢
      refine Or.inl ⟨rfl, steady.coherent, steady.params, fun keeps => ?_⟩
      have accounted := steady.accounted keeps
      refine ⟨accounted.roots, ?_⟩
      rw [applied, List.map_append]
      unfold Replay.requests
      dsimp only
      rw [← List.append_assoc, List.map_append]
      refine accounted.lookups.append ?_
      rw [List.map_singleton, ← converted]
      exact List.Perm.refl _

private theorem Steady.takes_fence
    (steady : Steady trace chronicle) (step : Word) (message : Trace.FenceMessage)
    (member : ⟨step, .fence message⟩ ∈ trace.operations) :
    Takes trace ⟨step, .fence message⟩ chronicle := by
  cases converted : message.toFence with
  | error fault =>
      have rejected : chronicle.replay.apply (.fence message) =
          (chronicle.replay, some fault) := by
        simp only [Replay.apply, converted]
      exact Or.inr ⟨fault, congrArg Prod.snd rejected, converted⟩
  | ok fence =>
      have fenced : chronicle.replay.apply (.fence message) =
          (chronicle.replay.absorb (Tlb.fence fence chronicle.replay.tlb), none) := by
        simp only [Replay.apply, converted]
        rfl
      obtain ⟨readsBefore, coherent⟩ := steady.coherent
      unfold Takes Chronicle.apply
      rw [fenced]
      refine Or.inl ⟨rfl, ⟨_, (coherent.fence fence).1⟩, steady.params, fun keeps => ?_⟩
      exact absurd (keeps _ member) Bool.false_ne_true

/-- Registers whose roots do not change are put in place, and that is all. -/
private theorem install_of_unchanged
    {registers : Registers} (unchanged : registers.changed = false) (tlb : Tlb) :
    Tlb.install registers tlb = { state := { tlb with registers := registers.settled } } := by
  unfold Tlb.install
  rw [unchanged]
  rfl

private theorem install_frame (registers : Registers) (tlb : Tlb) :
    (Tlb.install registers tlb).state.params = tlb.params ∧
      (Tlb.install registers tlb).fault = none := by
  unfold Tlb.install
  split <;> exact ⟨rfl, rfl⟩

private theorem Steady.takes_registers
    (steady : Steady trace chronicle) (step : Word) (message : Trace.RegistersMessage)
    (member : ⟨step, .registers message⟩ ∈ trace.operations) :
    Takes trace ⟨step, .registers message⟩ chronicle := by
  obtain ⟨readsBefore, coherent⟩ := steady.coherent
  let tlb := chronicle.replay.tlb
  let registers := message.toRegisters tlb.registers
  obtain ⟨params, running⟩ := install_frame registers tlb
  refine Or.inl ⟨running, coherent.perform (.install registers), params.trans steady.params,
    fun keeps => ?_⟩
  have accounted := steady.accounted keeps
  have unchanged : registers.changed = false := by
    refine message.unchanged_of_sameRoots accounted.roots ?_
    exact (Bool.not_eq_true' _).mp (keeps _ member)
  have installed : (chronicle.apply ⟨step, .registers message⟩).1.replay.tlb =
      { tlb with registers := registers.settled } :=
    congrArg Outcome.state (install_of_unchanged unchanged tlb)
  constructor
  · rw [installed]
    exact accounted.roots.trans ((message.changed_toRegisters _).1 unchanged)
  · have lookups :
        (chronicle.apply ⟨step, .registers message⟩).1.lookups = chronicle.lookups :=
      (lookups_apply _ _).trans (List.append_nil _)
    rw [lookups]
    unfold Replay.requests
    rw [installed]
    exact accounted.lookups

theorem Steady.takes
    {operation : Operation} (member : operation ∈ trace.operations)
    (steady : Steady trace chronicle) : Takes trace operation chronicle := by
  obtain ⟨step, action⟩ := operation
  cases action with
  | lookup message => exact steady.takes_lookup step message
  | fence message => exact steady.takes_fence step message member
  | registers message => exact steady.takes_registers step message member

private theorem Steady.await (steady : Steady trace chronicle) (operations : List Operation) :
    Steady trace (chronicle.await operations) :=
  { steady with accounted := fun keeps => { steady.accounted keeps with } }

/-- The operations that are due keep the replay steady, unless nothing can be made of one. -/
theorem Steady.applyDue
    {waiting : List Operation} (members : ∀ operation ∈ waiting, operation ∈ trace.operations)
    (steady : Steady trace chronicle) :
    ((chronicle.applyDue waiting).2 = none ∧ Steady trace (chronicle.applyDue waiting).1) ∨
      ∃ fault, (chronicle.applyDue waiting).2 = some fault ∧
        ∃ operation ∈ trace.operations, operation.action.RejectedWith fault := by
  induction waiting generalizing chronicle with
  | nil => exact Or.inl ⟨rfl, steady.await []⟩
  | cons operation waiting inductionHypothesis =>
      have member := members operation List.mem_cons_self
      have others (other : Operation) (behind : other ∈ waiting) : other ∈ trace.operations :=
        members other (List.mem_cons_of_mem _ behind)
      have taken := steady.takes member
      unfold Takes at taken
      unfold Chronicle.applyDue
      split
      · generalize chronicle.apply operation = applied at taken
        obtain ⟨after, fault⟩ := applied
        rcases taken with ⟨running, next⟩ | ⟨cause, stopped, rejected⟩
        · cases running
          exact inductionHypothesis others next
        · cases stopped
          exact Or.inr ⟨cause, rfl, operation, member, rejected⟩
      · exact Or.inl ⟨rfl, steady.await (operation :: waiting)⟩

/-- What sending lookups leaves: each of them is held by the TLB or still waits. -/
private structure Sent (readsBefore : Nat) (replay after : Replay) (pending : List Request) :
    Prop where
  coherent : Tlb.Coherent readsBefore after.tlb
  params : after.tlb.params = replay.tlb.params
  registers : after.tlb.registers = replay.tlb.registers
  responses : after.tlb.responses = replay.tlb.responses
  answered : after.answered = replay.answered
  lookups : (after.tlb.held ++ after.pending).Perm (replay.tlb.held ++ pending)

private theorem send_frame
    {tlb : Tlb} {request : Request} {outcome : Outcome Tlb}
    (sent : tlb.send? request = some outcome) :
    outcome.state.params = tlb.params ∧ outcome.state.registers = tlb.registers := by
  unfold Tlb.send? at sent
  split at sent
  · obtain ⟨inputs, _, rfl⟩ := Option.map_eq_some_iff.1 sent
    exact ⟨rfl, rfl⟩
  · cases sent

private theorem sent_of_pending
    {readsBefore : Nat} {replay : Replay} (coherent : Tlb.Coherent readsBefore replay.tlb)
    (pending : List Request) : Sent readsBefore replay (replay.sendPending pending) pending := by
  induction pending generalizing replay with
  | nil => exact ⟨coherent, rfl, rfl, rfl, rfl, List.Perm.refl _⟩
  | cons request pending inductionHypothesis =>
      unfold Replay.sendPending
      cases sent : replay.tlb.send? request with
      | none => exact ⟨coherent, rfl, rfl, rfl, rfl, List.Perm.refl _⟩
      | some outcome =>
          obtain ⟨next, _, responses, held⟩ := coherent.send sent
          obtain ⟨params, registers⟩ := send_frame sent
          have coherent : Tlb.Coherent readsBefore (replay.absorb outcome).tlb := next
          have rest := inductionHypothesis coherent
          refine
            { coherent := rest.coherent
              params := rest.params.trans params
              registers := rest.registers.trans registers
              responses := rest.responses.trans responses
              answered := rest.answered
              lookups := rest.lookups.trans ?_ }
          exact (held.append_right pending).trans List.perm_middle.symm

/-- A step after its operations keeps the replay steady, or the TLB stops with a fault that is
excused. -/
theorem Steady.work
    {waiting : List Operation} (recorded : Recorded trace waiting chronicle)
    (steady : Steady trace chronicle) (steps : Nat) :
    (chronicle.replay.work.2 = none ∧
        Steady trace { chronicle with replay := chronicle.replay.work.1, steps := steps }) ∨
      ∃ fault, chronicle.replay.work.2 = some fault ∧
        Tlb.Excused trace.tlb.params fault := by
  obtain ⟨readsBefore, coherent⟩ := steady.coherent
  have sent := sent_of_pending coherent chronicle.replay.pending
  unfold Replay.work
  dsimp only
  generalize chronicle.replay.sendPending chronicle.replay.pending = ready at sent
  have step := sent.coherent.tick
  have params := sent.params.trans steady.params
  cases stopped : ready.tlb.tick.fault with
  | some fault =>
      refine Or.inr ⟨fault, rfl, ?_⟩
      rw [← params]
      exact step.excused fault stopped
  | none =>
      refine Or.inl ⟨rfl, ⟨readsBefore, step.coherent.recounted⟩, step.framed.params.trans params,
        fun keeps => ?_⟩
      have accounted := steady.accounted keeps
      have known : ready.requests.Perm chronicle.replay.requests := by
        unfold Replay.requests
        rw [sent.answered, sent.responses, List.append_assoc,
          List.append_assoc _ _ chronicle.replay.pending]
        exact sent.lookups.append_left _
      have demands (request : Request) (member : request ∈ ready.tlb.held) :
          request.isPrefetch = false := by
        refine accounted.demands recorded keeps request (known.mem_iff.1 ?_)
        exact List.mem_append_left _ (List.mem_append_right _ member)
      obtain ⟨answered, responses, held⟩ := sent.coherent.tick_answers demands
      constructor
      · have registers := step.framed.registers.trans sent.registers
        change Registers.SameRoots _ ready.tlb.tick.state.registers
        rw [registers]
        exact accounted.roots
      · refine List.Perm.trans (List.Perm.map _ (List.Perm.trans ?_ known)) accounted.lookups
        apply List.perm_iff_count.2
        intro tested
        have counted := held.count_eq tested
        unfold Replay.requests Replay.collect Replay.absorb Tlb.drain
        dsimp only
        rw [responses]
        simp only [List.map_append, List.map_reverse, List.count_append, List.count_reverse,
          List.map_nil, List.append_nil] at counted ⊢
        have same : ∀ tlb : Tlb, Tlb.held { tlb with responses := [] } = tlb.held := fun _ => rfl
        rw [same]
        omega

/-! ## Runs -/

/-- A replay between two steps. -/
structure Underway (trace : Trace.Loaded) (chronicle : Chronicle) : Prop where
  onTime : OnTime trace chronicle.replay.operations chronicle
  steady : Steady trace chronicle

/-- A fault is that of an operation that nothing can be made of, or one that a step of the TLB
can meet. -/
def Explained (trace : Trace.Loaded) (fault : Fault) : Prop :=
  (∃ operation ∈ trace.operations, operation.action.RejectedWith fault) ∨
    Tlb.Excused trace.tlb.params fault

/-- What is left of a replay that has finished. -/
structure Finished (trace : Trace.Loaded) (chronicle : Chronicle) : Prop where
  applied : chronicle.applied.map (·.2) = trace.operations
  pending : chronicle.replay.pending = []
  rest : chronicle.replay.tlb.AtRest
  collected : chronicle.replay.tlb.responses = []
  /-- Every lookup was answered once, unless an operation drops lookups. -/
  answered : trace.KeepsLookups →
    (chronicle.replay.responses.map fun response => Except.ok response.request).Perm
      (trace.lookups.map (·.toRequest))

/-- What holds of a replay that was given some number of steps and has ended. -/
structure Replayed (trace : Trace.Loaded) (limit : Nat) (chronicle : Chronicle)
    (ending : ReplayEnding) : Prop where
  steps : chronicle.steps ≤ limit
  /-- The operations that were applied come first in the trace, in the same order. -/
  order : chronicle.applied.map (·.2) ++ chronicle.replay.operations = trace.operations
  /-- Each was applied after as many steps as its own step says. -/
  punctual : ∀ entry ∈ chronicle.applied, entry.2.step.toNat = entry.1
  finished : ending = .finished → Finished trace chronicle
  /-- A replay is stopped after its last step, with something still to do, and no operation
  that it has not applied is late. -/
  stopped : ending = .stopped →
    chronicle.steps = limit ∧ chronicle.replay.isDone = false ∧
      ∀ operation ∈ chronicle.replay.operations, chronicle.steps ≤ operation.step.toNat
  failed : ∀ fault, ending = .failed fault → Explained trace fault

theorem Underway.advance
    (sorted : InOrder trace.operations) (underway : Underway trace chronicle)
    (counted : chronicle.steps + 1 < UInt64.size) :
    Recorded trace chronicle.advance.1.replay.operations chronicle.advance.1 ∧
      chronicle.advance.1.steps = chronicle.steps + 1 ∧
      ((chronicle.advance.2 = none ∧ Underway trace chronicle.advance.1 ∧
          chronicle.advance.1.replay.tlb.responses = []) ∨
        ∃ fault, chronicle.advance.2 = some fault ∧ Explained trace fault) := by
  obtain ⟨recorded, steps, onTime⟩ := underway.onTime.advance sorted counted
  refine ⟨recorded, steps, ?_⟩
  have due := underway.onTime.applyDue sorted
  have members (operation : Operation) (member : operation ∈ chronicle.replay.operations) :
      operation ∈ trace.operations := by
    rw [← underway.onTime.order]
    exact List.mem_append_right _ member
  have steady := underway.steady.applyDue members
  unfold Chronicle.advance at onTime ⊢
  generalize chronicle.applyDue chronicle.replay.operations = result at due steady onTime ⊢
  obtain ⟨after, fault⟩ := result
  rcases steady with ⟨running, steady⟩ | ⟨cause, stopped, rejected⟩
  · cases running
    rcases steady.work due.1.toRecorded (after.steps + 1) with
      ⟨running, next⟩ | ⟨cause, stopped, excused⟩
    · exact Or.inl ⟨running, ⟨onTime running, next⟩, (Replay.work_counts running).2⟩
    · exact Or.inr ⟨cause, stopped, Or.inr excused⟩
  · cases stopped
    exact Or.inr ⟨cause, rfl, Or.inl rejected⟩

/-- A replay that is done between two steps has finished. -/
theorem Underway.finished
    (underway : Underway trace chronicle) (collected : chronicle.replay.tlb.responses = [])
    (done : chronicle.replay.isDone = true) : Finished trace chronicle := by
  unfold Replay.isDone at done
  rw [Bool.and_eq_true, Bool.and_eq_true, List.isEmpty_iff, List.isEmpty_iff] at done
  obtain ⟨⟨operations, pending⟩, idle⟩ := done
  obtain ⟨readsBefore, coherent⟩ := underway.steady.coherent
  have rest := coherent.atRest idle
  have applied : chronicle.applied.map (·.2) = trace.operations := by
    have order := underway.onTime.order
    rw [operations, List.append_nil] at order
    exact order
  refine ⟨applied, pending, rest, collected, fun keeps => ?_⟩
  have lookups : chronicle.lookups = trace.lookups := by
    unfold Chronicle.lookups Trace.Loaded.lookups
    rw [← applied, List.filterMap_map]
    rfl
  have accounted := (underway.steady.accounted keeps).lookups
  unfold Replay.requests at accounted
  rw [collected, rest.held, pending, lookups] at accounted
  simp only [List.map_nil, List.append_nil, List.map_map] at accounted
  unfold Replay.responses
  rw [List.map_reverse]
  exact (List.reverse_perm _).trans accounted

/-- What a run of a replay that is under way comes to. -/
theorem Underway.runFor
    (sorted : InOrder trace.operations) {limit : Nat} (underway : Underway trace chronicle)
    (counted : chronicle.steps + limit < UInt64.size)
    (unfinished : limit = 0 → chronicle.replay.isDone = false) :
    Replayed trace (chronicle.steps + limit) (chronicle.runFor limit).1
      (chronicle.runFor limit).2 := by
  induction limit generalizing chronicle with
  | zero =>
      exact
        { steps := Nat.le_refl _
          order := underway.onTime.order
          punctual := underway.onTime.punctual
          finished := by rintro ⟨⟩
          stopped := fun _ => ⟨rfl, unfinished rfl, underway.onTime.coming⟩
          failed := fun _ => by rintro ⟨⟩ }
  | succ limit inductionHypothesis =>
      obtain ⟨recorded, steps, step⟩ := underway.advance sorted (by omega)
      unfold Chronicle.runFor
      generalize chronicle.advance = result at recorded steps step
      obtain ⟨after, fault⟩ := result
      have within : after.steps + limit = chronicle.steps + (limit + 1) := by
        have steps : after.steps = chronicle.steps + 1 := steps
        omega
      have bounded : after.steps ≤ chronicle.steps + (limit + 1) := by omega
      rcases step with ⟨running, next, collected⟩ | ⟨cause, stopped, explained⟩
      · cases running
        dsimp only
        split
        · rename_i done
          exact
            { steps := bounded
              order := recorded.order
              punctual := recorded.punctual
              finished := fun _ => next.finished collected done
              stopped := by rintro ⟨⟩
              failed := fun _ => by rintro ⟨⟩ }
        · rename_i more
          rw [← within]
          exact inductionHypothesis next (by rw [within]; exact counted)
            fun _ => Bool.eq_false_iff.2 more
      · cases stopped
        refine
          { steps := bounded
            order := recorded.order
            punctual := recorded.punctual
            finished := by rintro ⟨⟩
            stopped := by rintro ⟨⟩
            failed := fun fault same => ?_ }
        cases same
        exact explained

/-- A replay that has not begun is under way. -/
theorem underway_of_load
    {path : String} {header : Option Trace.Header} {records : List Trace.Record}
    (loaded : Trace.load path header records = .ok trace) : Underway trace (start trace) := by
  obtain ⟨coherent, held, responses⟩ := Trace.coherent_of_load loaded
  constructor
  · exact
      { order := rfl
        punctual := nofun
        clock := rfl
        coming := fun _ _ => Nat.zero_le _ }
  · refine ⟨coherent, rfl, fun _ => ⟨⟨⟨rfl, rfl⟩, ⟨rfl, rfl⟩, ⟨rfl, rfl⟩⟩, ?_⟩⟩
    unfold Replay.requests Chronicle.start Replay.start
    dsimp only
    rw [responses, held]
    exact List.Perm.refl _

/-- A replay of a trace that loads does at most the steps that it is given, and one. It applies
the operations in their order, each at the start of its step. When it finishes, all are applied
and nothing is on its way, and if none drops a lookup, every lookup was answered once. It
stops before the end only with a fault of an operation or of a step. -/
theorem replayed_of_load
    {path : String} {header : Option Trace.Header} {records : List Trace.Record}
    (loaded : Trace.load path header records = .ok trace) (maxSteps : Word) :
    let result := (start trace).run maxSteps
    result.map Chronicle.replay id = (Replay.start trace).run maxSteps ∧
      Replayed trace (max maxSteps.toNat 1) result.1 result.2 := by
  intro result
  refine ⟨run_replay maxSteps (start trace), ?_⟩
  have sorted := (Trace.load_spec loaded).1
  have limited : max maxSteps.toNat 1 < UInt64.size := by
    have below : maxSteps.toNat < UInt64.size := maxSteps.toNat_lt
    exact Nat.max_lt.2 ⟨below, by decide⟩
  have counted : (start trace).steps + max maxSteps.toNat 1 < UInt64.size := by
    rw [show (start trace).steps = 0 from rfl, Nat.zero_add]
    exact limited
  have replayed := (underway_of_load loaded).runFor sorted counted fun none => by
    have positive := Nat.le_max_right maxSteps.toNat 1
    omega
  rw [show (start trace).steps = 0 from rfl, Nat.zero_add] at replayed
  exact replayed

/-- A lookup is walked. Two more, one of them offered in the step in which the registers are
written as they are, are answered from the cache. -/
theorem replayed_of_small_run :
    let loading : Except Fault Trace.Loaded :=
      Trace.load "small"
        (some
          { params :=
              { rootSize := some 4, middleSets := some 4, middleWays := some 2
                sectorSets := some 4, sectorWays := some 2, superpageSize := some 4
                leafWalkerSize := some 4, missQueueSize := some 6, memoryLatency := some 4 }
            registers := { satp := { id := 7, ppn := 1 } } })
        [.word ⟨0x1000, 0x801⟩, .word ⟨0x2000, 0xc01⟩, .word ⟨0x3028, 0x20000cf⟩,
          .operation 0 (some (.lookup { vpn := 5 })),
          .operation 3 (some (.registers { satp := { id := 0x10007, ppn := 1 } })),
          .operation 3 (some (.lookup { vpn := 5, source := 257 })),
          .operation 50 (some (.lookup { vpn := 5 }))]
    ∃ trace chronicle, loading = .ok trace ∧
      (start trace).run 100 = (chronicle, .finished) ∧
      chronicle.steps = 54 ∧ chronicle.applied.map (·.1) = [0, 3, 3, 50] ∧
      chronicle.replay.responses.map (fun response =>
          (response.request.source, response.stageOne.translate response.request.vpn,
            response.fromCache)) =
        [(0, 0x8000, false), (1, 0x8000, true), (0, 0x8000, true)] ∧
      trace.KeepsLookups ∧ Replayed trace 100 chronicle .finished := by
  intro loading
  have created : loading = .ok _ := rfl
  obtain ⟨trace, loaded⟩ : ∃ trace, loading = .ok trace := ⟨_, created⟩
  obtain ⟨chronicle, ending, ran⟩ : ∃ chronicle ending,
      (start trace).run 100 = (chronicle, ending) := ⟨_, _, rfl⟩
  have keeps : trace.KeepsLookups := by
    rw [created] at loaded
    cases loaded
    unfold Trace.Loaded.KeepsLookups
    decide +kernel
  obtain ⟨finished, steps, applied, answers⟩ :
      ending = .finished ∧ chronicle.steps = 54 ∧ chronicle.applied.map (·.1) = [0, 3, 3, 50] ∧
        chronicle.replay.responses.map (fun response =>
            (response.request.source, response.stageOne.translate response.request.vpn,
              response.fromCache)) =
          [(0, 0x8000, false), (1, 0x8000, true), (0, 0x8000, true)] := by
    have first := congrArg Prod.fst ran
    have second := congrArg Prod.snd ran
    rw [created] at loaded
    cases loaded
    dsimp only at first second
    subst first second
    decide +kernel
  subst finished
  obtain ⟨_, replayed⟩ := replayed_of_load loaded 100
  rw [ran] at replayed
  exact ⟨trace, chronicle, loaded, ran, steps, applied, answers, keeps, replayed⟩

end Chronicle

end PageWalk
