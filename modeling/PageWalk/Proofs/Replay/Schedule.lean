import PageWalk.Proofs.Trace
import PageWalk.Replay

/-!
# The schedule of a replay

An observer of a replay writes down each operation that is applied, and how many steps came
before it. The operations are applied in the order of the trace, each as soon as its own step
begins, so it is applied in that step and in no other.
-/

namespace PageWalk

open Trace (Action InOrder Operation)

/-! ## The parts of a step -/

namespace Replay

/-- A step after its operations: lookups, the step of the TLB, and its responses. -/
def work (replay : Replay) : Replay × Option Fault :=
  let replay := replay.sendPending replay.pending
  let outcome := replay.tlb.tick
  let replay := replay.absorb outcome
  match outcome.fault with
  | some fault => (replay, some fault)
  | none => ({ replay with step := replay.step + 1 }.collect, none)

theorem advance_eq (replay : Replay) :
    replay.advance =
      match replay.applyDue replay.operations with
      | (replay, some fault) => (replay, some fault)
      | (replay, none) => replay.work := rfl

theorem step_apply (replay : Replay) (action : Action) :
    (replay.apply action).1.step = replay.step := by
  cases action with
  | lookup message =>
      unfold apply
      dsimp only
      cases message.toRequest <;> rfl
  | fence message =>
      unfold apply
      dsimp only
      cases message.toFence <;> rfl
  | registers message => rfl

theorem sendPending_frame (replay : Replay) (pending : List Request) :
    (replay.sendPending pending).step = replay.step ∧
      (replay.sendPending pending).operations = replay.operations := by
  induction pending generalizing replay with
  | nil => exact ⟨rfl, rfl⟩
  | cons request pending inductionHypothesis =>
      unfold sendPending
      cases replay.tlb.send? request with
      | none => exact ⟨rfl, rfl⟩
      | some outcome => exact inductionHypothesis (replay.absorb outcome)

theorem work_operations (replay : Replay) : replay.work.1.operations = replay.operations := by
  unfold work
  dsimp only
  split
  · exact (replay.sendPending_frame replay.pending).2
  · exact (replay.sendPending_frame replay.pending).2

/-- A step that nothing stopped is counted, and its responses were taken. -/
theorem work_counts {replay : Replay} (running : replay.work.2 = none) :
    replay.work.1.step = replay.step + 1 ∧ replay.work.1.tlb.responses = [] := by
  unfold work at running ⊢
  dsimp only at running ⊢
  split
  · rename_i stopped
    rw [stopped] at running
    cases running
  · refine ⟨?_, rfl⟩
    exact congrArg (· + 1) (replay.sendPending_frame replay.pending).1

end Replay

/-! ## What an observer writes down -/

/-- A replay and what was seen of it. -/
structure Chronicle where
  replay : Replay
  /-- The steps that were done, also one that a fault has stopped. -/
  steps : Nat := 0
  /-- The operations that were applied, each with the number of the steps before it. -/
  applied : List (Nat × Operation) := []

namespace Chronicle

def start (trace : Trace.Loaded) : Chronicle where
  replay := .start trace

/-- Applies an operation and writes it down. -/
def apply (operation : Operation) (chronicle : Chronicle) : Chronicle × Option Fault :=
  let (replay, fault) := chronicle.replay.apply operation.action
  ({ chronicle with
      replay := replay
      applied := chronicle.applied ++ [(chronicle.steps, operation)] }, fault)

def await (operations : List Operation) (chronicle : Chronicle) : Chronicle :=
  { chronicle with replay := { chronicle.replay with operations := operations } }

def applyDue (chronicle : Chronicle) : (operations : List Operation) → Chronicle × Option Fault
  | [] => (chronicle.await [], none)
  | operation :: operations =>
      if operation.step ≤ chronicle.replay.step then
        match chronicle.apply operation with
        | (chronicle, none) => chronicle.applyDue operations
        | (chronicle, some fault) => (chronicle.await operations, some fault)
      else
        (chronicle.await (operation :: operations), none)

def advance (chronicle : Chronicle) : Chronicle × Option Fault :=
  match chronicle.applyDue chronicle.replay.operations with
  | (chronicle, some fault) => ({ chronicle with steps := chronicle.steps + 1 }, some fault)
  | (chronicle, none) =>
      let (replay, fault) := chronicle.replay.work
      ({ chronicle with replay := replay, steps := chronicle.steps + 1 }, fault)

def runFor : (limit : Nat) → Chronicle → Chronicle × ReplayEnding
  | 0, chronicle => (chronicle, .stopped)
  | limit + 1, chronicle =>
      match chronicle.advance with
      | (chronicle, some fault) => (chronicle, .failed fault)
      | (chronicle, none) =>
          if chronicle.replay.isDone then (chronicle, .finished) else runFor limit chronicle

def run (maxSteps : Word) (chronicle : Chronicle) : Chronicle × ReplayEnding :=
  runFor (max maxSteps.toNat 1) chronicle

/-! ## The replay that is observed -/

private theorem applyDue_replay (chronicle : Chronicle) (operations : List Operation) :
    (chronicle.applyDue operations).map Chronicle.replay id =
      chronicle.replay.applyDue operations := by
  induction operations generalizing chronicle with
  | nil => rfl
  | cons operation operations inductionHypothesis =>
      unfold applyDue Replay.applyDue
      by_cases due : operation.step ≤ chronicle.replay.step
      · rw [if_pos due, if_pos due]
        unfold apply
        cases chronicle.replay.apply operation.action with
        | mk replay fault =>
            cases fault with
            | none => exact inductionHypothesis _
            | some fault => rfl
      · rw [if_neg due, if_neg due]
        rfl

private theorem advance_replay (chronicle : Chronicle) :
    chronicle.advance.map Chronicle.replay id = chronicle.replay.advance := by
  rw [Replay.advance_eq, ← applyDue_replay]
  unfold advance
  cases chronicle.applyDue chronicle.replay.operations with
  | mk chronicle fault =>
      cases fault with
      | none => rfl
      | some fault => rfl

private theorem runFor_replay (limit : Nat) (chronicle : Chronicle) :
    (chronicle.runFor limit).map Chronicle.replay id = chronicle.replay.runFor limit := by
  induction limit generalizing chronicle with
  | zero => rfl
  | succ limit inductionHypothesis =>
      unfold runFor Replay.runFor
      rw [← advance_replay]
      cases chronicle.advance with
      | mk chronicle fault =>
          cases fault with
          | some fault => rfl
          | none =>
              dsimp only [Prod.map, id]
              split
              · rfl
              · exact inductionHypothesis chronicle

/-- Observing a replay does not change it. -/
theorem run_replay (maxSteps : Word) (chronicle : Chronicle) :
    (chronicle.run maxSteps).map Chronicle.replay id = chronicle.replay.run maxSteps :=
  runFor_replay _ chronicle

/-! ## Operations in time -/

/-- The operations that were applied and those that wait make up the trace, and each was
applied at the start of its step. -/
structure Recorded (trace : Trace.Loaded) (waiting : List Operation) (chronicle : Chronicle) :
    Prop where
  order : chronicle.applied.map (·.2) ++ waiting = trace.operations
  punctual : ∀ entry ∈ chronicle.applied, entry.2.step.toNat = entry.1

/-- Besides, the replay counts its steps right, and no operation that waits is late. -/
structure OnTime (trace : Trace.Loaded) (waiting : List Operation) (chronicle : Chronicle) :
    Prop extends Recorded trace waiting chronicle where
  clock : chronicle.replay.step.toNat = chronicle.steps
  coming : ∀ operation ∈ waiting, chronicle.steps ≤ operation.step.toNat

variable {trace : Trace.Loaded} {chronicle : Chronicle}

theorem OnTime.apply
    {operation : Operation} {waiting : List Operation}
    (onTime : OnTime trace (operation :: waiting) chronicle)
    (due : operation.step ≤ chronicle.replay.step) :
    OnTime trace waiting (chronicle.apply operation).1 := by
  have now : operation.step.toNat = chronicle.steps := by
    have early : operation.step.toNat ≤ chronicle.replay.step.toNat := UInt64.le_iff_toNat_le.1 due
    rw [onTime.clock] at early
    exact Nat.le_antisymm early (onTime.coming operation List.mem_cons_self)
  refine
    { order := ?_
      punctual := ?_
      clock := (congrArg UInt64.toNat (Replay.step_apply _ _)).trans onTime.clock
      coming := fun other member => onTime.coming other (List.mem_cons_of_mem _ member) }
  · change (chronicle.applied ++ [(chronicle.steps, operation)]).map (·.2) ++ waiting = _
    rw [List.map_append, List.append_assoc]
    exact onTime.order
  · intro entry member
    rcases List.mem_append.1 member with before | here
    · exact onTime.punctual entry before
    · rw [List.mem_singleton.1 here]
      exact now

/-- All operations of the present step are applied, unless one of them stops the replay. -/
theorem OnTime.applyDue
    (sorted : InOrder trace.operations) {waiting : List Operation}
    (onTime : OnTime trace waiting chronicle) :
    OnTime trace (chronicle.applyDue waiting).1.replay.operations
        (chronicle.applyDue waiting).1 ∧
      (chronicle.applyDue waiting).1.steps = chronicle.steps ∧
      ((chronicle.applyDue waiting).2 = none →
        ∀ operation ∈ (chronicle.applyDue waiting).1.replay.operations,
          chronicle.steps < operation.step.toNat) := by
  induction waiting generalizing chronicle with
  | nil => exact ⟨{ onTime with }, rfl, fun _ => nofun⟩
  | cons operation waiting inductionHypothesis =>
      unfold Chronicle.applyDue
      by_cases due : operation.step ≤ chronicle.replay.step
      · have next := onTime.apply due
        have steps : (chronicle.apply operation).1.steps = chronicle.steps := rfl
        rw [if_pos due]
        generalize chronicle.apply operation = applied at next steps
        obtain ⟨after, fault⟩ := applied
        cases fault with
        | some fault => exact ⟨{ next with }, steps, nofun⟩
        | none =>
            obtain ⟨reached, same, later⟩ := inductionHypothesis next
            have steps : after.steps = chronicle.steps := steps
            rw [steps] at same later
            exact ⟨reached, same, later⟩
      · rw [if_neg due]
        refine ⟨{ onTime with }, rfl, fun _ => ?_⟩
        have first : chronicle.steps < operation.step.toNat := by
          rw [← onTime.clock]
          exact UInt64.lt_iff_toNat_lt.1 (UInt64.not_le.1 due)
        have ordered : InOrder (operation :: waiting) := by
          have suffix : List.Sublist (operation :: waiting) trace.operations := by
            rw [← onTime.order]
            exact List.sublist_append_right _ _
          exact List.Pairwise.sublist suffix sorted
        intro other member
        rcases List.mem_cons.1 member with here | behind
        · rw [here]
          exact first
        · have after := (List.pairwise_cons.1 ordered).1 other behind
          exact Nat.lt_of_lt_of_le first (UInt64.le_iff_toNat_le.1 after)

/-- A step is written down right, and if nothing stopped it, the next one comes on time. -/
theorem OnTime.advance
    (sorted : InOrder trace.operations)
    (onTime : OnTime trace chronicle.replay.operations chronicle)
    (counted : chronicle.steps + 1 < UInt64.size) :
    Recorded trace chronicle.advance.1.replay.operations chronicle.advance.1 ∧
      chronicle.advance.1.steps = chronicle.steps + 1 ∧
      (chronicle.advance.2 = none →
        OnTime trace chronicle.advance.1.replay.operations chronicle.advance.1) := by
  obtain ⟨reached, same, later⟩ := onTime.applyDue sorted
  unfold Chronicle.advance
  generalize chronicle.applyDue chronicle.replay.operations = result at reached same later
  obtain ⟨after, fault⟩ := result
  dsimp only at reached same later
  cases fault with
  | some fault => exact ⟨{ reached with }, congrArg (· + 1) same, nofun⟩
  | none =>
      have operations := after.replay.work_operations
      dsimp only
      rw [operations]
      refine ⟨{ reached with }, congrArg (· + 1) same, fun running => ?_⟩
      refine { reached with clock := ?_, coming := ?_ }
      · dsimp only
        rw [(Replay.work_counts running).1, UInt64.toNat_add, reached.clock, same]
        exact Nat.mod_eq_of_lt counted
      · intro operation member
        dsimp only
        rw [same]
        exact later rfl operation member

end Chronicle

end PageWalk
