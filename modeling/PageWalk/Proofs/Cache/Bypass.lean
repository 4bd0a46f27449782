import PageWalk.Proofs.Cache.History

/-!
# Stale misses

A miss is stale if, since the lookup was accepted, a refill has landed that the lookup
could have hit and did not: then, and only then, the answer asks for another try, wherever
in the pipeline the lookup was at that moment.
-/

namespace PageWalk

/-- A lookup could have used what a refill brought: a leaf always, and a pointer if it had
none of that level. -/
def Refill.Matters (refill : Refill) (hint : WalkHint) : Prop :=
  refill.level = leafLevel ∨ refill.level = 1 ∧ hint.middle = false ∨
    refill.level = 0 ∧ hint.root = false

namespace Cache

theorem covers_iff
    {refill : Refill} (level : refill.level ≤ leafLevel) (request : Request) :
    covers refill request = true ↔ refill.Concerns request := by
  unfold covers
  rw [Refill.concerns_iff level, Bool.and_eq_true, beq_iff_eq, beq_iff_eq, eq_comm,
    @eq_comm _ (refillRegion request.vpn refill.level)]

/-! ## Marks -/

/-- The refills of a level that concern a lookup and have landed since it was accepted. -/
def Passage.Touched (passage : Passage) (level : Nat) : Prop :=
  ∃ refill ∈ passage.landed, refill.Concerns passage.lookup.request ∧ refill.level = level

theorem Passage.touched_land
    (refill : Refill) (passage : Passage) (level : Nat) :
    (passage.land refill).Touched level ↔
      passage.Touched level ∨
        refill.Concerns passage.lookup.request ∧ refill.level = level := by
  simp only [Touched, land, List.mem_append, List.mem_singleton, or_and_right, exists_or,
    exists_eq_left]

/-- The marks of a lookup tell the levels of the refills that concern it. -/
structure Passage.Marked (passage : Passage) (bypass : Bypass) : Prop where
  root : bypass.root = true ↔ passage.Touched 0
  middle : bypass.middle = true ↔ passage.Touched 1
  leaf : bypass.leaf = true ↔ passage.Touched leafLevel

theorem Passage.marked_of_accept (lookup : Lookup) :
    Passage.Marked { lookup := lookup } {} := by
  constructor <;> simp [Touched]

/-- When the storages are read plays no part. -/
theorem Passage.Marked.read
    {passage : Passage} {bypass : Bypass} (marked : passage.Marked bypass)
    (registers : Registers) (changes : Nat) :
    (passage.read registers changes).Marked bypass :=
  ⟨marked.root, marked.middle, marked.leaf⟩

theorem Passage.Marked.land
    {passage : Passage} {bypass : Bypass} (marked : passage.Marked bypass) {refill : Refill}
    (level : refill.level ≤ leafLevel) :
    (passage.land refill).Marked (markBypass refill passage.lookup bypass) := by
  have touched := passage.touched_land refill
  unfold markBypass
  by_cases concerns : covers refill passage.lookup.request = true
  · rw [if_pos concerns]
    rw [covers_iff level] at concerns
    have levels : refill.level = 0 ∨ refill.level = 1 ∨ refill.level = leafLevel := by
      unfold leafLevel at level ⊢
      omega
    unfold Bypass.mark
    constructor
    all_goals
      rw [touched]
      rcases levels with here | here | here <;>
        simp [here, concerns, leafLevel, marked.root, marked.middle, marked.leaf]
  · rw [if_neg concerns]
    rw [covers_iff level] at concerns
    constructor
    all_goals
      rw [touched]
      simp [concerns, marked.root, marked.middle, marked.leaf]

/-- A lookup with these marks is stale if a refill that concerns it matters to it. -/
theorem Passage.Marked.isStale
    {passage : Passage} {bypass : Bypass} (marked : passage.Marked bypass) (hint : WalkHint) :
    bypass.isStale hint.root hint.middle = true ↔
      ∃ refill ∈ passage.landed,
        refill.Concerns passage.lookup.request ∧ refill.Matters hint := by
  have split :
      (∃ refill ∈ passage.landed,
          refill.Concerns passage.lookup.request ∧ refill.Matters hint) ↔
        passage.Touched leafLevel ∨ passage.Touched 1 ∧ hint.middle = false ∨
          passage.Touched 0 ∧ hint.root = false := by
    unfold Touched Refill.Matters
    constructor
    · rintro ⟨refill, member, concerns, leaf | ⟨middle, missed⟩ | ⟨root, missed⟩⟩
      · exact .inl ⟨refill, member, concerns, leaf⟩
      · exact .inr (.inl ⟨⟨refill, member, concerns, middle⟩, missed⟩)
      · exact .inr (.inr ⟨⟨refill, member, concerns, root⟩, missed⟩)
    · rintro (⟨refill, member, concerns, leaf⟩ | ⟨⟨refill, member, concerns, middle⟩, missed⟩ |
        ⟨⟨refill, member, concerns, root⟩, missed⟩)
      · exact ⟨refill, member, concerns, .inl leaf⟩
      · exact ⟨refill, member, concerns, .inr (.inl ⟨middle, missed⟩)⟩
      · exact ⟨refill, member, concerns, .inr (.inr ⟨root, missed⟩)⟩
  rw [split, ← marked.root, ← marked.middle, ← marked.leaf]
  unfold Bypass.isStale
  simp only [Bool.or_eq_true, Bool.and_eq_true, Bool.not_eq_true', or_assoc]

/-! ## Answers -/

/-- An answer is marked exactly if it is a stale miss. -/
def Passage.Retries (passage : Passage) (answer : CacheAnswer) : Prop :=
  answer.bypassed = true ↔
    answer.hit = false ∧
      ∃ refill ∈ passage.landed,
        refill.Concerns passage.lookup.request ∧ refill.Matters answer.hint

theorem Passage.Marked.retries
    {passage : Passage} {checked : CheckedLookup} (marked : passage.Marked checked.bypass)
    (registers : Registers) : passage.Retries (answerOf registers checked) := by
  have stale := marked.isStale (answerOf registers checked).hint
  unfold Retries
  rw [← stale]
  unfold answerOf
  dsimp only
  rw [Bool.and_eq_true, Bool.not_eq_true']

/-- One refill alone makes a miss stale if it matters to it. -/
private theorem isStale_mark
    {refill : Refill} (level : refill.level ≤ leafLevel) (hint : WalkHint) :
    (Bypass.mark {} refill.level).isStale hint.root hint.middle = true ↔
      refill.Matters hint := by
  have levels : refill.level = 0 ∨ refill.level = 1 ∨ refill.level = leafLevel := by
    unfold leafLevel at level ⊢
    omega
  unfold Bypass.mark Bypass.isStale Refill.Matters
  rcases levels with here | here | here <;> simp [here, leafLevel]

theorem Passage.Retries.land
    {passage : Passage} {answer : CacheAnswer} (retries : passage.Retries answer)
    (same : passage.lookup = answer.lookup) {refill : Refill}
    (level : refill.level ≤ leafLevel) :
    (passage.land refill).Retries (markAnswer refill answer) := by
  unfold Retries at retries ⊢
  have landed (holds : Refill → Prop) :
      (∃ other ∈ (passage.land refill).landed, holds other) ↔
        (∃ other ∈ passage.landed, holds other) ∨ holds refill := by
    simp only [Passage.land, List.mem_append, List.mem_singleton, or_and_right, exists_or,
      exists_eq_left]
  have concerns := covers_iff level answer.lookup.request
  have matters := isStale_mark level answer.hint
  unfold markAnswer
  rw [landed]
  by_cases marks : (!answer.hit && covers refill answer.lookup.request) = true
  · rw [if_pos marks]
    simp only [Bool.and_eq_true, Bool.not_eq_true'] at marks
    dsimp only
    rw [Bool.or_eq_true, retries, matters]
    simp only [marks.1, true_and, Passage.land, same, concerns.1 marks.2]
  · rw [if_neg marks, retries]
    simp only [Bool.and_eq_true, Bool.not_eq_true', not_and] at marks
    refine and_congr_right fun missed => ?_
    simp only [Passage.land, same, ← concerns, marks missed, false_and, or_false,
      Bool.false_eq_true]

/-- What the pipeline knows of the refills that concern a lookup. -/
def Follows : Stage → Passage → Prop
  | .waiting held, passage => passage.lookup = held.lookup ∧ passage.Marked held.bypass
  | .reading held, passage => passage.lookup = held.lookup ∧ passage.Marked held.bypass
  | .checked held, passage => passage.lookup = held.lookup ∧ passage.Marked held.bypass
  | .answer held, passage => passage.lookup = held.lookup ∧ passage.Retries held

private theorem carries_follows (params : Params) (history : History) :
    history.Carries params (fun _ => Follows) where
  accept := fun lookup => ⟨rfl, Passage.marked_of_accept lookup⟩
  read := fun _ _ follows => ⟨follows.1, follows.2.read _ _⟩
  check := fun _ _ _ follows => follows
  respond := fun _ _ _ ⟨same, marked⟩ => ⟨same, marked.retries history.registers⟩
  stay := fun stage _ _ follows => by
    cases stage with
    | waiting held | reading held | checked held => exact ⟨follows.1, follows.2.read _ _⟩
    | answer held => exact follows
  land := fun refill stage passage level follows => by
    cases stage with
    | waiting held | reading held | checked held =>
        refine ⟨follows.1, ?_⟩
        have marked := follows.2.land level
        rw [follows.1] at marked
        exact marked
    | answer held =>
        refine ⟨?_, follows.2.land follows.1 level⟩
        change passage.lookup = (markAnswer refill held).lookup
        rw [lookup_markAnswer]
        exact follows.1

/-- At every point of a history an answer is marked exactly if it is a miss and, since its
lookup was accepted, a refill has landed that concerns and matters to it. -/
theorem bypassed_of_run
    {params : Params} {cache : Cache} (created : Cache.create params = .ok cache)
    (registers : Registers) (moves : List Move) :
    let history := (History.run params moves ⟨cache, registers, [], []⟩).state
    ∀ answer, history.cache.answer = some answer →
      ∃ passage, history.passages.head? = some passage ∧ passage.lookup = answer.lookup ∧
        (answer.bypassed = true ↔
          answer.hit = false ∧
            ∃ refill ∈ passage.landed,
              refill.Concerns answer.lookup.request ∧ refill.Matters answer.hint) := by
  intro history answer found
  have tracks : history.Tracks fun _ => Follows :=
    Outcome.forEach_state_induction
      (fun move _ current before => before.perform (carries_follows params current) move)
      (History.tracks_of_create created registers)
  obtain ⟨passage, oldest, same, retries⟩ := tracks.answer found
  unfold Passage.Retries at retries
  rw [same] at retries
  exact ⟨passage, oldest, same, retries⟩

/-- The sector of a sibling lands when the storages have just been read, so the miss is
tried again. -/
theorem bypassed_of_small_run :
    let moves : List Move :=
      [.send { request := { vpn := 5 } }, .tick,
        .refill { level := leafLevel, request := { vpn := 6 } }, .tick, .tick]
    ∃ cache, Cache.create .small = .ok cache ∧
      let history := (History.run .small moves ⟨cache, {}, [], []⟩).state
      history.cache.answer.map (fun answer => (answer.hit, answer.bypassed)) =
          some (false, true) ∧
        ∀ answer, history.cache.answer = some answer →
          ∃ passage, history.passages.head? = some passage ∧
            passage.lookup = answer.lookup ∧
            (answer.bypassed = true ↔
              answer.hit = false ∧
                ∃ refill ∈ passage.landed,
                  refill.Concerns answer.lookup.request ∧ refill.Matters answer.hint) := by
  intro moves
  have created : Cache.create .small = .ok _ := rfl
  exact ⟨_, created, by decide +kernel, bypassed_of_run created {} moves⟩

end Cache

end PageWalk
