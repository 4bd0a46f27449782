import PageWalk.Proofs.Lockstep.Commands

/-!
# A flushed TLB and a new one

A flush leaves nothing behind that could be seen from outside: from then on the TLB
accepts, reads and answers like a new one with the same registers, the same storages of
the cache and the same words in memory, although reads from before the flush are still
on their way.
-/

namespace PageWalk

/-! ## What is seen of a run -/

/-- What is seen of one command: the lookup it brought in, the reads that the memory
accepted, the responses that were appended, and what stopped it. -/
structure Observation where
  accepted : List Request
  reads : Array MemoryRequest
  responses : List Response
  fault : Option Fault

namespace Tlb

/-- The TLB with a new record of the reads that its memory accepts. -/
def recorded (tlb : Tlb) : Tlb :=
  { tlb with memory := tlb.memory.recorded }

def observe (command : Command) (tlb : Tlb) : Observation :=
  let watched := tlb.recorded
  let outcome := watched.perform command
  { accepted := watched.accepts command
    reads := outcome.state.memory.history
    responses := outcome.state.responses.drop watched.responses.length
    fault := outcome.fault }

/-- What is seen of some commands, up to the first one that is stopped. -/
def observations : List Command → Tlb → List Observation
  | [], _ => []
  | command :: commands, tlb =>
      let outcome := tlb.recorded.perform command
      let rest :=
        match outcome.fault with
        | some _ => []
        | none => observations commands outcome.state
      tlb.observe command :: rest

/-- What is seen of two TLBs is the same, unless a read from before the flush has a
reader that the counters of the first one cannot number; until then it is the same. -/
def SeenAlike (params : Params) (seen others : List Observation) : Prop :=
  others = seen ∨
    ∃ common last, common <+: others ∧ seen = common ++ [last] ∧ Overflowed params last.fault

private theorem SeenAlike.cons
    {params : Params} {seen others : List Observation} (alike : SeenAlike params seen others)
    (observation : Observation) :
    SeenAlike params (observation :: seen) (observation :: others) := by
  rcases alike with rfl | ⟨common, last, shared, rfl, overflowed⟩
  · exact Or.inl rfl
  · right
    exact ⟨observation :: common, last, (List.prefix_cons_inj observation).2 shared, rfl,
      overflowed⟩

/-! ## Observing two TLBs -/

variable {left : Nat} {old : List PendingRead} {tlb other : Tlb}

private theorem Rested.recorded (rested : tlb.Rested) : tlb.recorded.Rested := by
  obtain ⟨⟨readsBefore, coherent⟩, timely, accepted, refilled⟩ := rested
  obtain ⟨ticket, tracked⟩ := coherent.pages
  refine ⟨⟨readsBefore, ?_, ⟨ticket, { tracked with }⟩, ?_, ?_⟩, ?_, accepted, refilled⟩
  · exact { coherent.reads with }
  · exact { coherent.queues with }
  · exact fun wraps => { coherent.confined wraps with }
  · exact { timely with }

private theorem Paired.recorded (paired : Paired left old tlb other) :
    Paired left old tlb.recorded other.recorded where
  mirrors := { paired.mirrors with memory := paired.mirrors.memory.recorded }
  rested := paired.rested.recorded
  otherRested := paired.otherRested.recorded
  flushed := paired.flushed

/-- Two TLBs that differ only in reads from before a flush look the same. -/
theorem Paired.observations
    {commands : List Command}
    (paired : Paired (commands.count .tick) old tlb.recorded other.recorded) :
    SeenAlike tlb.params (tlb.observations commands) (other.observations commands) := by
  induction commands generalizing old tlb other with
  | nil => exact Or.inl rfl
  | cons command commands inductionHypothesis =>
      rcases paired.perform with ⟨older, matched⟩ | overflowed
      · have observed : other.observe command = tlb.observe command := by
          unfold observe
          dsimp only
          rw [paired.accepts, matched.states.mirrors.memory.history,
            matched.states.responses, matched.faults]
        unfold Tlb.observations
        dsimp only
        rw [observed, matched.faults]
        cases running : (tlb.recorded.perform command).fault with
        | some fault => exact Or.inl rfl
        | none =>
            have next := inductionHypothesis (paired.next matched running).recorded
            rw [(paired.rested.built command).params] at next
            exact next.cons _
      · right
        obtain ⟨_, stopped⟩ := overflowed.2.imp fun _ => And.right
        refine ⟨[], tlb.observe command, List.nil_prefix, ?_, overflowed⟩
        unfold Tlb.observations
        dsimp only
        rw [stopped]
        rfl

/-! ## A new TLB with old storages -/

end Tlb

end PageWalk
