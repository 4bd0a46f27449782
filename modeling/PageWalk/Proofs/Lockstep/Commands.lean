import PageWalk.Proofs.Lockstep.Tlb

/-!
# Commands in lockstep

Whatever is done to two TLBs that differ only in reads from before a flush, they accept
the same lookups, read the same blocks and append the same responses, and they go on
differing in such reads only.
-/

namespace PageWalk.Tlb

open Outcome (Matched)

/-! ## Commands -/

variable {first second : List Response} {left : Nat} {old : List PendingRead}
variable {tlb other : Tlb}

private theorem Mirrors.send
    (mirrors : Mirrors first second left old tlb other) (request : Request) :
    (other.send? request).isSome = (tlb.send? request).isSome ∧
      Matched (Mirrors first second left old)
        ((tlb.send? request).getD { state := tlb })
        ((other.send? request).getD { state := other }) := by
  have ready : other.ready = tlb.ready := by
    unfold Tlb.ready reserved
    rw [mirrors.inputs, mirrors.misses, mirrors.lookupsInCache, mirrors.params]
  unfold send?
  rw [ready, mirrors.inputs]
  split
  · cases tlb.inputs.send? request with
    | none => exact ⟨rfl, mirrors, rfl⟩
    | some inputs => exact ⟨rfl, { mirrors with inputs := rfl }, rfl⟩
  · exact ⟨rfl, mirrors, rfl⟩

private theorem Mirrors.flush (mirrors : Mirrors first second left old tlb other) :
    Mirrors first second left old tlb.flush other.flush :=
  { mirrors with
    cache := mirrors.cache.flush
    upper := rfl
    leaf := mirrors.leaf.flush
    stageTwo := rfl
    inputs := congrArg BoundedQueue.flush mirrors.inputs
    misses := congrArg BoundedQueue.flush mirrors.misses
    guestPages := congrArg BoundedQueue.flush mirrors.guestPages
    lookupsInCache := rfl }

private theorem Mirrors.install
    (mirrors : Mirrors first second left old tlb other) (registers : Registers) :
    Matched (Mirrors first second left old) (Tlb.install registers tlb)
      (Tlb.install registers other) := by
  have installed :
      Mirrors first second left old { tlb with registers := registers.settled }
        { other with registers := registers.settled } :=
    { mirrors with registers := rfl }
  unfold Tlb.install
  dsimp only
  split
  · exact ⟨installed.flush, rfl⟩
  · exact ⟨installed, rfl⟩

private theorem Mirrors.fence
    (mirrors : Mirrors first second left old tlb other) (fence : Fence) :
    Matched (Mirrors first second left old) (Tlb.fence fence tlb) (Tlb.fence fence other) := by
  have same :
      Cache.fence other.params other.registers = Cache.fence tlb.params tlb.registers := by
    rw [mirrors.params, mirrors.registers]
  unfold Tlb.fence
  rw [same]
  refine (mirrors.cache.fence _ _ fence).map fun _ _ next => ?_
  exact Mirrors.flush { mirrors with cache := next }

private theorem Mirrors.write
    (mirrors : Mirrors first second left old tlb other) (address data : Word) :
    Matched (Mirrors first second left old) (Tlb.write address data tlb)
      (Tlb.write address data other) := by
  unfold Tlb.write Memory.writeWord
  by_cases unaligned : (address % 8 != 0) = true
  · simp only [if_pos unaligned]
    exact ⟨mirrors, rfl⟩
  · simp only [if_neg unaligned]
    exact ⟨{ mirrors with memory := mirrors.memory.setWord address data }, rfl⟩

private theorem Mirrors.corrupt
    (mirrors : Mirrors first second left old tlb other) (level : Nat) (set way : UInt32) :
    Matched (Mirrors first second left old) (Tlb.corrupt level set way tlb)
      (Tlb.corrupt level set way other) := by
  have same : Cache.corrupt other.params = Cache.corrupt tlb.params := by
    rw [mirrors.params]
  unfold Tlb.corrupt
  rw [same]
  exact (mirrors.cache.corrupt _ level set way).map
    fun _ _ next => { mirrors with cache := next }

/-- Two TLBs agree as far as it matters, and have appended the same responses to the
`first` and `second` ones they had. -/
structure Seen (first second : List Response) (left : Nat) (old : List PendingRead)
    (tlb other : Tlb) : Prop where
  mirrors : Mirrors tlb.responses other.responses left old tlb other
  responses : other.responses.drop second.length = tlb.responses.drop first.length

theorem Mirrors.restarted (mirrors : Mirrors first second left old tlb other) :
    Mirrors tlb.responses other.responses left old tlb other :=
  { mirrors with responses := ⟨[], by simp, by simp⟩ }

private theorem Mirrors.seen (mirrors : Mirrors first second left old tlb other) :
    Seen first second left old tlb other := by
  obtain ⟨given, before, otherBefore⟩ := mirrors.responses
  refine ⟨mirrors.restarted, ?_⟩
  rw [before, otherBefore, List.drop_left, List.drop_left]

private theorem Mirrors.receive
    (mirrors : Mirrors tlb.responses other.responses left old tlb other) :
    Seen tlb.responses other.responses left old
      { tlb with responses := tlb.responses.tail }
      { other with responses := other.responses.tail } := by
  have short (responses : List Response) : responses.tail.drop responses.length = [] := by
    simp
  constructor
  · exact { mirrors with responses := ⟨[], by simp, by simp⟩ }
  · rw [short, short]

/-! ## Between two commands -/

/-- Two TLBs between two commands, the second one without the `old` reads of the first
one. After a flush of the first one alone there is nothing to refill the second one
with. -/
structure Paired (left : Nat) (old : List PendingRead) (tlb other : Tlb) : Prop where
  mirrors : Mirrors tlb.responses other.responses left old tlb other
  rested : tlb.Rested
  otherRested : other.Rested
  flushed : other.cache.flushed = tlb.cache.flushed ∨ other.memory.pending = []

theorem Paired.accepts (paired : Paired left old tlb other) (command : Command) :
    other.accepts command = tlb.accepts command := by
  cases command with
  | send request => simp only [Tlb.accepts, (paired.mirrors.send request).1]
  | _ => rfl

theorem Paired.perform
    {command : Command} {commands : List Command}
    (paired : Paired ((command :: commands).count .tick) old tlb other) :
    (∃ older,
      Matched (Seen tlb.responses other.responses (commands.count .tick) older)
        (tlb.perform command) (other.perform command)) ∨
      Overflowed tlb.params (tlb.perform command).fault := by
  obtain ⟨mirrors, rested, otherRested, flushed⟩ := paired
  by_cases step : command = .tick
  · subst step
    rw [List.count_cons_self] at mirrors
    rcases mirrors.tick rested otherRested flushed with ⟨older, matched⟩ | overflowed
    · exact Or.inl ⟨older, matched.states.seen, matched.faults⟩
    · exact Or.inr overflowed
  · rw [List.count_cons_of_ne step] at mirrors
    have seen {outcome otherOutcome : Outcome Tlb}
        (matched :
          Matched (Mirrors tlb.responses other.responses (commands.count .tick) old)
            outcome otherOutcome) :
        Matched (Seen tlb.responses other.responses (commands.count .tick) old)
          outcome otherOutcome :=
      ⟨matched.states.seen, matched.faults⟩
    refine Or.inl ⟨old, ?_⟩
    cases command with
    | send request => exact seen (mirrors.send request).2
    | receive =>
        rw [perform_receive, perform_receive]
        exact ⟨mirrors.receive, rfl⟩
    | fence fence => exact seen (mirrors.fence fence)
    | install registers => exact seen (mirrors.install registers)
    | write address data => exact seen (mirrors.write address data)
    | corrupt level set way => exact seen (mirrors.corrupt level set way)
    | tick => exact absurd rfl step

theorem Paired.next
    {command : Command} {commands : List Command} {older : List PendingRead}
    (paired : Paired ((command :: commands).count .tick) old tlb other)
    (matched :
      Matched (Seen tlb.responses other.responses (commands.count .tick) older)
        (tlb.perform command) (other.perform command))
    (running : (tlb.perform command).fault = none) :
    Paired (commands.count .tick) older (tlb.perform command).state
      (other.perform command).state := by
  obtain ⟨mirrors, rested, otherRested, flushed⟩ := paired
  have otherRunning := matched.faults.trans running
  have bounded (step : command = .tick) : tlb.memory.Bounded ∧ other.memory.Bounded := by
    subst step
    rw [List.count_cons_self] at mirrors
    exact mirrors.memory.bounded
  refine
    { mirrors := matched.states.mirrors
      rested := rested.perform running fun step => (bounded step).1
      otherRested := otherRested.perform otherRunning fun step => (bounded step).2
      flushed := ?_ }
  by_cases step : command = .tick
  · subst step
    obtain ⟨_, coherent⟩ := rested.coherent
    obtain ⟨_, otherCoherent⟩ := otherRested.coherent
    left
    exact (otherCoherent.tick_ready otherRunning).2.2.trans
      (coherent.tick_ready running).2.2.symm
  · rw [perform_flushed step, perform_flushed step, (perform_still step other).pending]
    rcases flushed with same | empty
    · left
      rw [same]
    · exact Or.inr empty

end PageWalk.Tlb
