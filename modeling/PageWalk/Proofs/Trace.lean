import PageWalk.Proofs.Tlb.Runs
import PageWalk.Trace.Load

/-!
# Loaded traces

A trace that loads has its operations in the order of their steps. Its TLB is a new one, with
the registers of the header.
-/

namespace PageWalk.Trace

/-! ## Operations of a trace -/

def Action.lookup? : Action → Option LookupMessage
  | .lookup message => some message
  | _ => none

/-- The lookups of a trace in order. -/
def Loaded.lookups (trace : Loaded) : List LookupMessage :=
  trace.operations.filterMap (·.action.lookup?)

/-- An operation that nothing can be made of, and its fault. -/
def Action.RejectedWith (fault : Fault) : Action → Prop
  | .lookup message => message.toRequest = .error fault
  | .fence message => message.toFence = .error fault
  | .registers _ => False

/-- Whether an operation leaves all lookups on their way, where the registers have the given
roots: a fence and a changed root drop them, and a prefetch may itself be dropped. -/
def Action.keepsLookups (registers : Registers) : Action → Bool
  | .lookup message => !isPrefetchSource message.source.toUInt8
  | .fence _ => false
  | .registers message => !(message.toRegisters registers).changed

/-- No operation of a trace drops a lookup. -/
def Loaded.KeepsLookups (trace : Loaded) : Prop :=
  ∀ operation ∈ trace.operations, operation.action.keepsLookups trace.tlb.registers = true

/-- No operation comes before one of an earlier step. -/
def InOrder (operations : List Operation) : Prop :=
  operations.Pairwise fun earlier later => earlier.step ≤ later.step

/-! ## Loading -/

/-- What each operation keeps that succeeds, a fold keeps that succeeds. -/
private theorem foldlM_induction
    {State Item : Type} {holds : State → Prop} {operation : State → Item → Except Fault State}
    (step : ∀ state item after, holds state → operation state item = .ok after → holds after)
    {items : List Item} {state last : State} (start : holds state)
    (folded : items.foldlM operation state = .ok last) : holds last := by
  induction items generalizing state with
  | nil =>
      cases folded
      exact start
  | cons item items inductionHypothesis =>
      rw [List.foldlM_cons] at folded
      cases next : operation state item with
      | error fault =>
          rw [next] at folded
          cases folded
      | ok after =>
          rw [next] at folded
          exact inductionHypothesis (step state item after start next) folded

/-- The operations so far are in order, and the last step is not before any of them. -/
private structure Contents.InOrder (contents : Contents) : Prop where
  sorted : Trace.InOrder contents.operations.toList
  reached : ∀ operation ∈ contents.operations.toList, operation.step ≤ contents.lastStep

private theorem Contents.InOrder.add
    {path : String} {contents after : Contents} (inOrder : contents.InOrder) {record : Record}
    (added : contents.add path record = .ok after) : after.InOrder := by
  cases record with
  | word message =>
      cases added
      exact ⟨inOrder.sorted, inOrder.reached⟩
  | empty => cases added
  | operation step action =>
      unfold Contents.add at added
      dsimp only at added
      split at added
      · cases added
      · rename_i forward
        have later : contents.lastStep ≤ step := UInt64.not_lt.1 forward
        cases action with
        | none => cases added
        | some action =>
            cases added
            constructor
            · dsimp only
              rw [Array.toList_push]
              refine List.pairwise_append.2 ⟨inOrder.sorted, List.pairwise_singleton _ _, ?_⟩
              intro earlier member operation here
              rw [List.mem_singleton.1 here]
              exact UInt64.le_trans (inOrder.reached earlier member) later
            · dsimp only
              rw [Array.toList_push]
              intro operation member
              rcases List.mem_append.1 member with before | here
              · exact UInt64.le_trans (inOrder.reached operation before) later
              · rw [List.mem_singleton.1 here]
                exact UInt64.le_refl step

/-- The records of a trace leave its operations in order. -/
private theorem Contents.inOrder_of_foldlM
    {path : String} {records : List Record} {contents : Contents}
    (added : records.foldlM (Contents.add path) {} = .ok contents) : contents.InOrder := by
  have empty : Contents.InOrder {} := ⟨List.Pairwise.nil, List.forall_mem_nil _⟩
  exact foldlM_induction (fun _ _ _ inOrder => inOrder.add) empty added

private theorem unread_of_writeWord
    {memory after : Memory} {address data : Word} (unread : memory.pending = [])
    (stored : memory.writeWord address data = .ok after) : after.pending = [] := by
  unfold Memory.writeWord at stored
  split at stored
  · cases stored
  · cases stored
    exact unread

/-- The words of a trace are written, and nothing is read. -/
private theorem unread_of_foldlM
    {words : Array WordMessage} {empty memory : Memory} (unread : empty.pending = [])
    (written : words.foldlM (fun memory word => memory.writeWord word.address word.data) empty =
      .ok memory) : memory.pending = [] := by
  rw [← Array.foldlM_toList] at written
  exact foldlM_induction (fun _ _ _ => unread_of_writeWord) unread written

/-- The operations of a loaded trace are in order, and its TLB is a new one but for the
registers. -/
theorem load_spec
    {path : String} {header : Option Header} {records : List Record} {trace : Loaded}
    (loaded : load path header records = .ok trace) :
    InOrder trace.operations ∧
      ∃ params memory tlb registers,
        Tlb.create params .allowAll memory = .ok tlb ∧ memory.pending = [] ∧
          trace.tlb = { tlb with registers := registers } := by
  cases header with
  | none => cases loaded
  | some header =>
      unfold load at loaded
      simp only [bind, Except.bind, pure, Except.pure] at loaded
      split at loaded
      · cases loaded
      · rename_i contents added
        split at loaded
        · cases loaded
        · rename_i memory written
          split at loaded
          · cases loaded
          · rename_i tlb created
            cases loaded
            exact ⟨(Contents.inOrder_of_foldlM added).sorted, _, memory, tlb, _, created,
              unread_of_foldlM rfl written, rfl⟩

/-- The TLB of a loaded trace is coherent, holds nothing and has no response. -/
theorem coherent_of_load
    {path : String} {header : Option Header} {records : List Record} {trace : Loaded}
    (loaded : load path header records = .ok trace) :
    (∃ readsBefore, Tlb.Coherent readsBefore trace.tlb) ∧ trace.tlb.held = [] ∧
      trace.tlb.responses = [] := by
  obtain ⟨_, params, memory, tlb, registers, created, unread, same⟩ := load_spec loaded
  obtain ⟨coherent, held⟩ := Tlb.coherent_of_create created unread
  obtain ⟨_, _, _, _, _, _, _, _, _, _, made⟩ := Tlb.create_spec created
  rw [same]
  refine ⟨⟨memory.requests, coherent.recounted⟩, held, ?_⟩
  rw [made]

end PageWalk.Trace
