import PageWalk.Proofs.Tlb.Steps

/-!
# Runs from a new TLB

A new TLB is coherent, and every command keeps it so. What an observer of a run writes
down therefore balances: every lookup that was accepted since the last flush was
answered, dropped as a repeated prefetch, or is still held, and every read on its way is
stale or awaited.
-/

namespace PageWalk

/-! ## A new TLB -/

namespace Tlb

/-- A new TLB over a memory without reads on their way is coherent and holds nothing. -/
theorem coherent_of_create
    {params : Params} {protection : Protection} {memory : Memory} {tlb : Tlb}
    (created : Tlb.create params protection memory = .ok tlb)
    (unread : memory.pending = []) :
    Coherent memory.requests tlb ∧ tlb.held = [] := by
  obtain ⟨cache, inputs, misses, guestPages, caching, noInput, noMiss, missCapacity, noPage,
    pageCapacity, same⟩ := create_spec created
  obtain ⟨stocked, noLookup⟩ := Cache.stocked_of_create caching
  subst same
  have idle := LeafWalker.entry_create params
  have noSerial (id : Nat) : memory.serials id = [] := by
    unfold Memory.serials
    rw [unread]
    rfl
  have zero (id : Nat) : (Array.replicate params.readers 0).getD id 0 = 0 := by
    rw [Array.getD_eq_getD_getElem?, Array.getElem?_replicate]
    split <;> rfl
  refine ⟨⟨?_, ⟨none, ?_⟩, ?_, fun _ => ?_⟩, ?_⟩
  · refine
      { pending := by simp only [unread, List.length_nil, Nat.zero_le]
        flushed := Nat.le_refl _
        readers := Array.size_replicate
        staleReaders := Array.size_replicate
        known := ?_
        accounts := ?_ }
    · intro read member
      simp only [unread, List.not_mem_nil] at member
    · intro id _
      unfold Accounted
      rw [noSerial, zero, awaitsBlock_of_quiet rfl rfl (LeafWalker.awaitsBlock_of_idle idle)]
      exact .start _
  · refine
      { upper := fun _ found => (by cases found)
        stageTwo := fun _ found => (by cases found)
        leaf := LeafWalker.orderly_of_idle idle rfl
        entries := Array.size_replicate
        pages := ?_ }
    simp only [pagesInFlight, queuedPages, noLookup, noPage]
    exact List.Perm.refl _
  · exact queuesTracked_of_create created
  · exact ⟨LeafWalker.heldRequests_of_idle idle, rfl, stocked⟩
  · simp only [held, noInput, noMiss, noLookup, LeafWalker.heldRequests_of_idle idle]
    rfl

end Tlb

/-! ## Journals that balance -/

namespace Journal

/-- A coherent state, and a journal that accounts for every lookup. -/
structure Balanced (journal : Journal) : Prop where
  coherent : Tlb.Coherent journal.readsBefore journal.tlb
  accounts :
    journal.accepted.Perm (journal.answered ++ journal.discarded ++ journal.tlb.held)

variable {journal : Journal}

/-- Nothing is written down of a command that neither brings, answers nor drops a
lookup. -/
private theorem Balanced.of_quiet
    (balanced : Balanced journal) {command : Command} {outcome : Outcome Tlb}
    (stays : command.flushes = false) (brings : journal.tlb.accepts command = [])
    (responses : outcome.state.responses.length ≤ journal.tlb.responses.length)
    (keeps : outcome.discarded = [])
    (coherent : Tlb.Coherent journal.readsBefore outcome.state)
    (held : journal.tlb.held.Perm outcome.state.held) :
    Balanced (journal.advance command outcome) := by
  unfold advance
  rw [stays, if_neg Bool.false_ne_true, brings, keeps, List.drop_eq_nil_of_le responses]
  refine ⟨coherent, ?_⟩
  simp only [List.append_nil, List.map_nil]
  exact balanced.accounts.trans (held.append_left _)

private theorem balanced_of_flush
    {command : Command} {outcome : Outcome Tlb} (flushes : command.flushes = true)
    (coherent : Tlb.Coherent outcome.state.memory.requests outcome.state)
    (empty : outcome.state.held = []) : Balanced (journal.advance command outcome) := by
  unfold advance
  rw [flushes, if_pos rfl]
  refine ⟨coherent, ?_⟩
  change List.Perm [] ([] ++ [] ++ outcome.state.held)
  rw [empty]
  exact List.Perm.refl _

/-- A lookup that is offered is written down if it is accepted. -/
private theorem Balanced.send (balanced : Balanced journal) (request : Request) :
    Balanced (journal.advance (.send request) (journal.tlb.perform (.send request))) := by
  cases sent : journal.tlb.send? request with
  | none =>
      have same : journal.tlb.perform (.send request) = { state := journal.tlb } := by
        change (journal.tlb.send? request).getD _ = _
        rw [sent]
        rfl
      have brings : journal.tlb.accepts (.send request) = [] := by
        change (if (journal.tlb.send? request).isSome then [request] else []) = []
        rw [sent]
        rfl
      rw [same]
      exact balanced.of_quiet rfl brings (Nat.le_refl _) rfl balanced.coherent
        (List.Perm.refl _)
  | some outcome =>
      have same : journal.tlb.perform (.send request) = outcome := by
        change (journal.tlb.send? request).getD _ = _
        rw [sent]
        rfl
      have brings : journal.tlb.accepts (.send request) = [request] := by
        change (if (journal.tlb.send? request).isSome then [request] else []) = [request]
        rw [sent]
        rfl
      obtain ⟨next, uneventful, responses, held⟩ := balanced.coherent.send sent
      rw [same]
      unfold advance
      rw [brings, uneventful.keeps, responses, List.drop_length]
      refine ⟨next, ?_⟩
      apply List.perm_iff_count.2
      intro tested
      have before := balanced.accounts.count_eq tested
      have here := held.count_eq tested
      simp only [Command.flushes, Bool.false_eq_true, if_false, List.map_nil,
        List.append_nil, List.count_append, List.count_cons, List.count_nil]
        at before here ⊢
      omega

private theorem Balanced.receive (balanced : Balanced journal) :
    Balanced (journal.advance .receive (journal.tlb.perform .receive)) := by
  rw [Tlb.perform_receive]
  refine balanced.of_quiet rfl rfl ?_ rfl balanced.coherent.recounted (List.Perm.refl _)
  dsimp only
  rw [List.length_tail]
  exact Nat.sub_le _ 1

/-- New registers drop every lookup if one of them has changed. -/
private theorem Balanced.install (balanced : Balanced journal) (registers : Registers) :
    Balanced (journal.advance (.install registers) (Tlb.install registers journal.tlb)) := by
  have installed :
      Tlb.Coherent journal.readsBefore
        { journal.tlb with registers := registers.settled } := balanced.coherent.recounted
  unfold Tlb.install
  dsimp only
  by_cases changed : registers.changed = true
  · obtain ⟨next, empty⟩ := installed.flush fun wraps => (installed.confined wraps).cache
    rw [if_pos changed]
    exact balanced_of_flush changed next empty
  · rw [if_neg changed]
    exact balanced.of_quiet (Bool.eq_false_iff.2 changed) rfl (Nat.le_refl _) rfl installed
      (List.Perm.refl _)

/-- What a step answers and drops is written down. -/
private theorem Balanced.tick (balanced : Balanced journal) :
    Balanced (journal.advance .tick journal.tlb.tick) := by
  have step := balanced.coherent.tick
  obtain ⟨answered, responses, held⟩ := step.accounts
  unfold advance
  rw [responses, List.drop_left]
  refine ⟨step.coherent, ?_⟩
  apply List.perm_iff_count.2
  intro tested
  have before := balanced.accounts.count_eq tested
  have here := held.count_eq tested
  simp only [Command.flushes, Tlb.accepts, Bool.false_eq_true, if_false, List.append_nil,
    List.count_append] at before here ⊢
  omega

/-- Every command keeps the journal balanced. -/
theorem Balanced.perform (balanced : Balanced journal) (command : Command) :
    Balanced (Journal.perform command journal).state := by
  have coherent := balanced.coherent
  change Balanced (journal.advance command (journal.tlb.perform command))
  cases command with
  | send request => exact balanced.send request
  | receive => exact balanced.receive
  | fence fence =>
      obtain ⟨next, empty⟩ := coherent.fence fence
      exact balanced_of_flush rfl next empty
  | install registers => exact balanced.install registers
  | write address data =>
      obtain ⟨next, keeps, responses, held⟩ := coherent.write address data
      exact balanced.of_quiet rfl rfl (Nat.le_of_eq (congrArg List.length responses)) keeps next
        (List.Perm.of_eq held.symm)
  | corrupt level set way =>
      obtain ⟨next, keeps, responses, held⟩ := coherent.corrupt level set way
      exact balanced.of_quiet rfl rfl (Nat.le_of_eq (congrArg List.length responses)) keeps next
        held
  | tick => exact balanced.tick

theorem balanced_of_create
    {params : Params} {protection : Protection} {memory : Memory} {tlb : Tlb}
    (created : Tlb.create params protection memory = .ok tlb)
    (unread : memory.pending = []) : Balanced (Journal.start tlb) := by
  obtain ⟨coherent, empty⟩ := Tlb.coherent_of_create created unread
  have same : tlb.memory = memory := by
    obtain ⟨_, _, _, _, _, _, _, _, _, _, made⟩ := Tlb.create_spec created
    rw [made]
  rw [← same] at coherent
  refine ⟨coherent, ?_⟩
  change List.Perm [] ([] ++ [] ++ tlb.held)
  rw [empty]
  exact List.Perm.refl _

theorem Balanced.run (balanced : Balanced journal) (commands : List Command) :
    Balanced (journal.run commands).state :=
  Outcome.forEach_state_induction (fun command _ _ before => before.perform command) balanced

/-! ## Lookups -/

/-- At every point of a run, the lookups that were accepted since the last flush are
those that were answered since then, the prefetches that the leaf walker has dropped
since then, and those that are still held. -/
theorem lookups_of_run
    {params : Params} {protection : Protection} {memory : Memory} {tlb : Tlb}
    (created : Tlb.create params protection memory = .ok tlb)
    (unread : memory.pending = []) (commands : List Command) :
    let journal := ((Journal.start tlb).run commands).state
    journal.accepted.Perm (journal.answered ++ journal.discarded ++ journal.tlb.held) :=
  ((balanced_of_create created unread).run commands).accounts

/-- In two steps, one of two lookups has reached the cache and the other one waits. -/
theorem lookups_of_small_run :
    ∃ tlb, Tlb.create .small .allowAll {} = .ok tlb ∧
      let journal :=
        ((Journal.start tlb).run
          [.send { vpn := 5 }, .send { vpn := 6 }, .tick, .receive]).state
      journal.accepted = [{ vpn := 5 }, { vpn := 6 }] ∧
        journal.accepted.Perm
          (journal.answered ++ journal.discarded ++ journal.tlb.held) := by
  have unread : ({} : Memory).pending = [] := rfl
  have created : Tlb.create .small .allowAll {} = .ok _ := rfl
  exact ⟨_, created, by decide +kernel, lookups_of_run created unread _⟩

/-! ## Reads -/

private theorem Balanced.received
    (balanced : Balanced journal) {reply : MemoryReply} {serial : Nat} {later : List Nat}
    (due : journal.tlb.memory.dueReply? = some reply)
    (inside : reply.id < journal.tlb.params.readers)
    (serials : journal.tlb.memory.serials reply.id = serial :: later) :
    (serial < journal.readsBefore ∧ journal.tlb.receiveBlock.fault = none ∧
        journal.tlb.receiveBlock.state.upper = journal.tlb.upper ∧
        journal.tlb.receiveBlock.state.leaf = journal.tlb.leaf ∧
        journal.tlb.receiveBlock.state.stageTwo = journal.tlb.stageTwo ∧
        journal.tlb.receiveBlock.state.cache = journal.tlb.cache) ∨
      (journal.readsBefore ≤ serial ∧ journal.tlb.receiveBlock.fault = none ∧
        journal.tlb.awaitsBlock reply.id = true ∧
        Tlb.BlockDelivered (journal.tlb.arrived reply.id) reply.id reply.block
          journal.tlb.receiveBlock.state ∧
        journal.tlb.receiveBlock.state.awaitsBlock reply.id = false) := by
  have reads := balanced.coherent.reads
  obtain ⟨ticket, tracked⟩ := balanced.coherent.pages
  obtain ⟨oldest, rest, pending, same⟩ := Memory.dueReply_spec due
  subst same
  rw [reads.serials_of_oldest pending] at serials
  cases serials
  have older := (reads.account_of_oldest pending inside).first_lt
  have received := Tlb.receiveBlock_cases reads tracked.upper tracked.stageTwo
  generalize journal.tlb.receiveBlock = outcome at received ⊢
  cases received with
  | nothing none =>
      rw [none] at due
      cases due
  | overflow read others first outside =>
      rw [pending] at first
      cases first
      exact absurd outside (Nat.not_le_of_lt inside)
  | stale read others first _ stale counters state uneventful =>
      rw [pending] at first
      cases first
      left
      rw [state]
      exact ⟨older.2 stale, uneventful.running, rfl, rfl, rfl, rfl⟩
  | live read others first _ fresh awaited delivered uneventful =>
      rw [pending] at first
      cases first
      right
      refine ⟨?_, uneventful.running, awaited, delivered, ?_⟩
      · refine Nat.le_of_not_lt fun before => ?_
        exact absurd fresh (Nat.ne_of_gt (older.1 before))
      · exact delivered.awaits_self tracked.upper tracked.stageTwo

end Journal

/-! ## Coherence without a journal -/

namespace Tlb

theorem Coherent.perform
    {readsBefore : Nat} {tlb : Tlb} (coherent : Coherent readsBefore tlb) (command : Command) :
    ∃ readsBefore, Coherent readsBefore (tlb.perform command).state := by
  let journal : Journal := { tlb := tlb, accepted := tlb.held, readsBefore := readsBefore }
  have balanced : journal.Balanced := ⟨coherent, List.Perm.refl _⟩
  have next := (balanced.perform command).coherent
  have same : (Journal.perform command journal).state.tlb = (tlb.perform command).state :=
    Journal.advance_tlb journal command (tlb.perform command)
  rw [same] at next
  exact ⟨_, next⟩

end Tlb

end PageWalk
