import PageWalk.Proofs.Cache.LeafRefills
import PageWalk.Proofs.Cache.Order

/-!
# Leaves that come back

As long as nothing is invalidated, refilled or installed after a leaf refill, every lookup of
its sector that is accepted is a leaf hit, and all of them show the slots of one line: those
of the refill, or those of an older line of the sector in a lower way.
-/

namespace PageWalk

/-- A leaf hit that shows eight slots. -/
structure CacheAnswer.ShowsLeaves (answer : CacheAnswer) (slots : Vector Slot 8) : Prop where
  hit : answer.hit = true
  sectorHit : answer.sectorHit = true
  superpageHit : answer.superpageHit = false
  level : answer.stageOne.level = leafLevel
  sectored : answer.stageOne.sectored = true
  slots : answer.stageOne.slots = slots

namespace Cache

variable {params : Params} {cache after : Cache} {registers : Registers}

/-! ## Lookups on their way -/

def Stage.request : Stage → Request
  | .waiting held => held.lookup.request
  | .reading held => held.lookup.request
  | .checked held => held.lookup.request
  | .answer held => held.lookup.request

/-- A lookup of the sector of a refill has found one line and nothing else, if it has come
that far. -/
def Stage.Shows (refill : Refill) (line : SectorLine) (stage : Stage) : Prop :=
  SameSector refill stage.request →
    match stage with
    | .waiting _ => True
    | .reading held => held.sector.map (·.line) = some line ∧ held.superpage = none
    | .checked held => held.sector = some line ∧ held.superpage = none
    | .answer held => held.ShowsLeaves (line.slots.map LeafSlot.toSlot)

/-- A cache after a refill: the first `older` lookups were on their way before, and all
others show the line. -/
structure Returning (params : Params) (registers : Registers) (refill : Refill)
    (line : SectorLine) (older : Nat) (cache : Cache) : Prop where
  serving : Serving params registers refill line cache
  shows : ∀ stage ∈ cache.stages.drop older, stage.Shows refill line

section Stages

variable {refill : Refill} {line : SectorLine} {older : Nat}

private theorem forall_drop_replace
    {Item : Type} {holds : Item → Prop} {left right : List Item} {old : Item} (new : Item)
    {count : Nat}
    (all : ∀ item ∈ (left ++ old :: right).drop count, holds item)
    (here : holds old → holds new) :
    ∀ item ∈ (left ++ new :: right).drop count, holds item := by
  induction left generalizing count with
  | nil =>
      cases count with
      | zero =>
          intro item member
          rcases List.mem_cons.1 member with rfl | later
          · exact here (all old List.mem_cons_self)
          · exact all item (List.mem_cons_of_mem old later)
      | succ count => exact all
  | cons first left inductionHypothesis =>
      cases count with
      | zero =>
          intro item member
          rcases List.mem_cons.1 member with rfl | later
          · exact all item List.mem_cons_self
          · have rest (other : Item) (earlier : other ∈ (left ++ old :: right).drop 0) :
                holds other := all other (List.mem_cons_of_mem first earlier)
            exact inductionHypothesis rest item later
      | succ count => exact inductionHypothesis all

/-- The answer of a lookup that has kept the line alone. -/
private theorem showsLeaves_answerOf
    (registers : Registers) {checked : CheckedLookup} (sector : checked.sector = some line)
    (superpage : checked.superpage = none) :
    (answerOf registers checked).ShowsLeaves (line.slots.map LeafSlot.toSlot) := by
  unfold answerOf answerStageOne CheckedLookup.isHit
  rw [sector, superpage]
  exact ⟨rfl, rfl, rfl, rfl, rfl, rfl⟩

theorem Returning.mono
    (returning : Returning params registers refill line older cache) {more : Nat}
    (le : older ≤ more) : Returning params registers refill line more cache where
  serving := returning.serving
  shows := fun stage member => returning.shows stage (List.drop_subset_drop_left _ le member)

theorem Returning.respondStage
    (returning : Returning params registers refill line older cache) :
    Returning params registers refill line older
      (Cache.respondStage params registers cache).state := by
  unfold Cache.respondStage
  split
  · rename_i checked free found
    unfold Cache.respond
    split
    · exact returning
    · have before : cache.stages = [] ++ .checked checked ::
          ((cache.reading.map .reading).toList ++ (cache.waiting.map .waiting).toList) := by
        simp [stages, free, found]
      refine ⟨returning.serving.of_same rfl rfl rfl returning.serving.coded.reading, ?_⟩
      have shows := returning.shows
      rw [before] at shows
      have after := forall_drop_replace (.answer (answerOf registers checked)) shows
        fun held same => showsLeaves_answerOf registers (held same).1 (held same).2
      simpa [stages] using after
  · exact returning

theorem Returning.checkStage
    (returning : Returning params registers refill line older cache) :
    Returning params registers refill line older (Cache.checkStage params cache).state := by
  cases due : cache.dueForCheck with
  | none =>
      rw [checkStage_of_not_due due]
      exact returning
  | some read =>
      obtain ⟨found, free⟩ := dueForCheck_spec due
      obtain ⟨examined, waiting, reading, checked, answer⟩ := checkStage_of_due params due
      have coded := returning.serving.coded
      have uncorrupted := coded.uncorrupted found
      generalize (Cache.checkStage params cache).state = after at *
      have sectors : after.sectors = cache.sectors := by
        refine Array.ext_getElem? fun position => ?_
        rw [examined.sectors, uncorrupted, if_neg (fun both => Bool.noConfusion both.1)]
      have shows := returning.shows
      have before : cache.stages = (cache.answer.map .answer).toList ++
          .reading read :: (cache.waiting.map .waiting).toList := by
        simp [stages, free, found]
      rw [before] at shows
      refine ⟨returning.serving.of_same sectors examined.superpages examined.code ?_, ?_⟩
      · intro _ taken
        rw [reading] at taken
        cases taken
      · have passed := forall_drop_replace (.checked (read.examine cache.code)) shows
          fun held same => by
            obtain ⟨sector, superpage⟩ := held same
            obtain ⟨hit, member, rfl⟩ := Option.map_eq_some_iff.1 sector
            have matching := (LineCode.hasError_eq_false_iff cache.code _ _).2
              (coded.reading read found hit member)
            simp [ReadLookup.examine, ReadLookup.sound, member, superpage, matching,
              Option.filter_some]
        simpa [stages, waiting, reading, checked, answer] using passed

theorem Returning.readStage
    (returning : Returning params registers refill line older cache) :
    Returning params registers refill line older (Cache.readStage params registers cache) := by
  unfold Cache.readStage
  split
  · rename_i waiting free found
    have serving := returning.serving
    refine ⟨serving.of_same rfl rfl rfl ?_, ?_⟩
    · intro read taken
      cases taken
      exact serving.read_coded waiting
    · have before : cache.stages = ((cache.answer.map .answer).toList ++
          (cache.checked.map .checked).toList) ++ .waiting waiting :: [] := by
        simp [stages, free, found]
      have shows := returning.shows
      rw [before] at shows
      have here : Stage.Shows refill line (.waiting waiting) →
          Stage.Shows refill line (.reading (Cache.read params registers waiting cache)) :=
        fun _ same => ⟨serving.sector _ same, serving.alone _ same⟩
      have after := forall_drop_replace _ shows here
      simpa [stages] using after
  · exact returning

theorem Returning.tick
    (returning : Returning params registers refill line older cache) :
    Returning params registers refill line older (Cache.tick params registers cache).state := by
  unfold Cache.tick
  refine Outcome.andThen_state_induction returning.respondStage ?_
  intro _ responded
  refine Outcome.andThen_state_induction responded.checkStage ?_
  intro _ checked
  have read := checked.readStage
  exact ⟨read.serving.of_same rfl rfl rfl read.serving.coded.reading, read.shows⟩

theorem Returning.send
    (returning : Returning params registers refill line older cache) (lookup : Lookup) :
    Returning params registers refill line older (Cache.send params lookup cache).2.state := by
  have serving := returning.serving
  obtain ⟨_, ⟨_, free, state⟩ | ⟨_, _, state⟩⟩ := send_cases params lookup cache
  · rw [state]
    refine ⟨serving.of_same rfl rfl rfl serving.coded.reading, fun stage member => ?_⟩
    have grown : Cache.stages { cache with waiting := some { lookup := lookup } } =
        cache.stages ++ [.waiting { lookup := lookup }] := by
      simp [stages, free]
    rw [grown, List.drop_append] at member
    rcases List.mem_append.1 member with old | new
    · exact returning.shows stage old
    · rw [List.mem_singleton.1 (List.mem_of_mem_drop new)]
      exact fun _ => trivial
  · rw [state]
    exact ⟨serving.of_same rfl rfl rfl serving.coded.reading, returning.shows⟩

/-- The answer of the oldest lookup leaves; it shows the line if it is none of those that
were on their way before. -/
theorem Returning.pop
    (returning : Returning params registers refill line older cache) {answer : CacheAnswer}
    (found : cache.answer = some answer) :
    Returning params registers refill line (older - 1) (cache.withoutAnswer answer) ∧
      (older = 0 → Stage.Shows refill line (.answer answer)) := by
  have before : cache.stages = .answer answer :: (cache.withoutAnswer answer).stages := by
    simp [stages, found, withoutAnswer]
  have serving := returning.serving
  have shows := returning.shows
  rw [before] at shows
  refine ⟨⟨serving.of_same rfl rfl rfl serving.coded.reading, ?_⟩, ?_⟩
  · cases older with
    | zero => exact fun stage member => shows stage (List.mem_cons_of_mem _ member)
    | succ older => exact shows
  · rintro rfl
    exact shows _ List.mem_cons_self

end Stages

/-! ## Runs -/

/-- What happens to a cache that is left to its lookups. -/
def Move.travels : Move → Bool
  | .send _ | .tick | .pop => true
  | _ => false

/-- A run after a refill: all answers but those to the first `older` lookups show the line,
if they are for its sector. -/
structure Ledger.Shows (params : Params) (registers : Registers) (refill : Refill)
    (line : SectorLine) (older : Nat) (ledger : Ledger) : Prop where
  installed : ledger.history.registers = registers
  returning : Returning params registers refill line (older - ledger.answered.length)
    ledger.history.cache
  answered : ∀ (index : Nat) (answer : CacheAnswer), ledger.answered[index]? = some answer →
    older ≤ index → Stage.Shows refill line (.answer answer)

section Ledgers

variable {refill : Refill} {line : SectorLine} {older : Nat} {ledger : Ledger}

private theorem shows_of_unanswered
    (shows : ledger.Shows params registers refill line older) {last : Ledger}
    (installed : last.history.registers = ledger.history.registers)
    (answered : last.answered = ledger.answered)
    (returning : Returning params registers refill line (older - ledger.answered.length)
      last.history.cache) :
    last.Shows params registers refill line older where
  installed := installed.trans shows.installed
  returning := by rwa [answered]
  answered := by
    rw [answered]
    exact shows.answered

private theorem Ledger.Shows.pop
    (shows : ledger.Shows params registers refill line older) :
    (ledger.perform params .pop).state.Shows params registers refill line older := by
  have state : (ledger.perform params .pop).state =
      { history :=
          { ledger.history with
            cache := (Cache.pop params ledger.history.cache).state
            passages :=
              if ledger.history.cache.answer.isSome then ledger.history.passages.tail
              else ledger.history.passages }
        accepted := ledger.accepted ++ []
        answered := ledger.answered ++ ledger.history.cache.answer.toList } := rfl
  rw [state]
  cases found : ledger.history.cache.answer with
  | none =>
      refine shows_of_unanswered shows rfl (List.append_nil _) ?_
      unfold Cache.pop
      rw [found]
      exact shows.returning
  | some answer =>
      obtain ⟨returning, shown⟩ := shows.returning.pop found
      refine ⟨shows.installed, ?_, ?_⟩
      · rw [(pop_spec params found).2.1]
        simpa [Nat.sub_sub] using returning
      · intro index other member late
        rcases Nat.lt_trichotomy index ledger.answered.length with before | here | behind
        · refine shows.answered index other ?_ late
          rwa [List.getElem?_append_left before] at member
        · rw [here] at member late
          have same : answer = other := by simpa using member
          rw [← same]
          exact shown (Nat.sub_eq_zero_of_le late)
        · have beyond : (ledger.answered ++ [answer]).length ≤ index := by
            rw [List.length_append]
            exact behind
          rw [Option.toList_some, List.getElem?_eq_none beyond] at member
          cases member

theorem Ledger.Shows.perform
    (shows : ledger.Shows params registers refill line older) {move : Move}
    (travels : move.travels = true) :
    (ledger.perform params move).state.Shows params registers refill line older := by
  have returning := shows.returning
  cases move with
  | send lookup =>
      exact shows_of_unanswered shows rfl (List.append_nil _) (returning.send lookup)
  | tick =>
      refine shows_of_unanswered shows rfl (List.append_nil _) ?_
      change Returning params registers refill line (older - ledger.answered.length)
        (Cache.tick params ledger.history.registers ledger.history.cache).state
      rw [shows.installed]
      exact returning.tick
  | pop => exact shows.pop
  | refill _ | fence _ | flush | install _ | corrupt _ _ _ => cases travels

end Ledgers

/-! ## Answers that are taken -/

/-- A step of a cache whose answers are taken as soon as they are there. -/
def turn (params : Params) (registers : Registers) (cache : Cache) : Outcome Cache :=
  let taken : Outcome Cache :=
    if cache.answer.isSome then Cache.pop params cache else { state := cache }
  taken.andThen (Cache.tick params registers)

/-- Such steps until one of them stops the cache. -/
def turns (params : Params) (registers : Registers) : Nat → Cache → Outcome Cache
  | 0, cache => { state := cache }
  | count + 1, cache => (turn params registers cache).andThen (turns params registers count)

/-- All lookups are one stage further. -/
structure Advanced (cache after : Cache) : Prop where
  waiting : after.waiting = none
  reading : after.reading.map (·.lookup) = cache.waiting.map (·.lookup)
  checked : after.checked.map (·.lookup) = cache.reading.map (·.lookup)
  answer : after.answer.map (·.lookup) = cache.checked.map (·.lookup)

private theorem checkStage_of_free (params : Params) (free : cache.checked = none) :
    let after := (Cache.checkStage params cache).state
    after.waiting = cache.waiting ∧ after.reading = none ∧
      after.checked.map (·.lookup) = cache.reading.map (·.lookup) ∧
      after.answer = cache.answer := by
  have due : cache.dueForCheck = cache.reading := by
    unfold dueForCheck
    rw [free]
    rfl
  cases found : cache.reading with
  | none =>
      rw [found] at due
      rw [checkStage_of_not_due due]
      exact ⟨rfl, found, by rw [free]; rfl, rfl⟩
  | some read =>
      rw [found] at due
      obtain ⟨_, waiting, reading, checked, answer⟩ := checkStage_of_due params due
      exact ⟨waiting, reading, by rw [checked]; rfl, answer⟩

private theorem readStage_of_free
    (params : Params) (registers : Registers) (free : cache.reading = none) :
    let after := Cache.readStage params registers cache
    after.waiting = none ∧ after.reading.map (·.lookup) = cache.waiting.map (·.lookup) ∧
      after.checked = cache.checked ∧ after.answer = cache.answer := by
  unfold Cache.readStage
  rw [free]
  cases found : cache.waiting with
  | none => exact ⟨found, by rw [free]; rfl, rfl, rfl⟩
  | some waiting => exact ⟨rfl, rfl, rfl, rfl⟩

/-- What the last stage has left free, the others fill. -/
private theorem advanced_of_responded
    (running : (Cache.respondStage params registers cache).fault = none)
    (waiting : (Cache.respondStage params registers cache).state.waiting = cache.waiting)
    (reading : (Cache.respondStage params registers cache).state.reading = cache.reading)
    (free : (Cache.respondStage params registers cache).state.checked = none)
    (answer : (Cache.respondStage params registers cache).state.answer.map (·.lookup) =
      cache.checked.map (·.lookup)) :
    (Cache.tick params registers cache).fault = none ∧
      Advanced cache (Cache.tick params registers cache).state := by
  unfold Cache.tick
  generalize Cache.respondStage params registers cache = responded at *
  have examined := (checkStage_lookups params responded.state).2.running
  obtain ⟨second, secondFree, checked, kept⟩ := checkStage_of_free params free
  rw [Outcome.andThen_fault_of_running _ running, Outcome.andThen_fault_of_running _ examined,
    Outcome.andThen_state_of_running _ running, Outcome.andThen_state_of_running _ examined]
  generalize Cache.checkStage params responded.state = checkedStage at *
  obtain ⟨third, read, same, last⟩ := readStage_of_free params registers secondFree
  refine ⟨rfl, third, ?_, ?_, ?_⟩
  · exact read.trans (by rw [second, waiting])
  · exact (congrArg _ same).trans (checked.trans (by rw [reading]))
  · exact (congrArg _ (last.trans kept)).trans answer

/-- A step after the answer was taken moves all lookups, unless one of them hits twice. -/
theorem advanced_tick
    (params : Params) (registers : Registers) {cache : Cache} (free : cache.answer = none) :
    ((Cache.tick params registers cache).fault = none ∧
        Advanced cache (Cache.tick params registers cache).state) ∨
      ∃ checked, cache.checked = some checked ∧ checked.superpage.isSome = true ∧
        (Cache.tick params registers cache).fault =
          some (.misuse params.cacheName (.doubleHit checked.lookup.request)) := by
  cases found : cache.checked with
  | none =>
      have same : Cache.respondStage params registers cache = { state := cache } := by
        unfold Cache.respondStage
        rw [free, found]
      refine .inl (advanced_of_responded ?_ ?_ ?_ ?_ ?_)
      all_goals rw [same]
      · exact found
      · rw [free, found]
        rfl
  | some checked =>
      have same : Cache.respondStage params registers cache =
          Cache.respond params registers checked cache := by
        unfold Cache.respondStage
        rw [free, found]
      by_cases twice : (checked.sector.isSome && checked.superpage.isSome) = true
      · refine .inr ⟨checked, rfl, (Bool.and_eq_true_iff.1 twice).2, ?_⟩
        have stopped : Cache.respond params registers checked cache =
            .stop cache (.misuse params.cacheName (.doubleHit checked.lookup.request)) := by
          unfold Cache.respond
          rw [if_pos twice]
        unfold Cache.tick
        rw [same, stopped]
        rfl
      · refine .inl (advanced_of_responded ?_ ?_ ?_ ?_ ?_)
        all_goals
          rw [same]
          unfold Cache.respond
          rw [if_neg twice]
        rw [found]
        rfl

section Turns

variable {refill : Refill} {line : SectorLine}

theorem length_stages (cache : Cache) : cache.stages.length = cache.lookups.length := by
  unfold stages lookups
  cases cache.answer <;> cases cache.checked <;> cases cache.reading <;>
    cases cache.waiting <;> rfl

/-- A step that takes the answer is a step of a cache without one. -/
private theorem turn_spec
    (params : Params) (registers : Registers) (refill : Refill) (line : SectorLine)
    (cache : Cache) :
    ∃ taken : Cache, taken.answer = none ∧ taken.waiting = cache.waiting ∧
      taken.reading = cache.reading ∧ taken.checked = cache.checked ∧
      (Returning params registers refill line (cache.stages.length - 1) cache →
        Returning params registers refill line (taken.stages.length - 1) taken) ∧
      (turn params registers cache).fault = (Cache.tick params registers taken).fault ∧
      (turn params registers cache).state = (Cache.tick params registers taken).state := by
  unfold turn
  cases found : cache.answer with
  | none => exact ⟨cache, found, rfl, rfl, rfl, id, rfl, rfl⟩
  | some answer =>
      obtain ⟨_, state, uneventful⟩ := pop_spec params found
      refine ⟨cache.withoutAnswer answer, rfl, rfl, rfl, rfl, fun returning => ?_, ?_, ?_⟩
      · have length : cache.stages.length = (cache.withoutAnswer answer).stages.length + 1 := by
          simp [stages, found, withoutAnswer]
        rw [length] at returning
        exact (returning.pop found).1
      · rw [Option.isSome_some, if_pos rfl, Outcome.andThen_fault_of_running _ uneventful.running,
          state]
      · rw [Option.isSome_some, if_pos rfl, Outcome.andThen_state_of_running _ uneventful.running,
          state]

/-- All lookups go on, and the youngest one shows the line if it did before. -/
theorem turn_cases
    (params : Params) (registers : Registers) (refill : Refill) (line : SectorLine)
    (cache : Cache) :
    (Returning params registers refill line (cache.stages.length - 1) cache →
        Returning params registers refill line
          ((turn params registers cache).state.stages.length - 1)
          (turn params registers cache).state) ∧
      (((turn params registers cache).fault = none ∧
          Advanced cache (turn params registers cache).state) ∨
        ∃ checked, cache.checked = some checked ∧ checked.superpage.isSome = true ∧
          (turn params registers cache).fault =
            some (.misuse params.cacheName (.doubleHit checked.lookup.request))) := by
  obtain ⟨taken, free, waiting, reading, checked, keeps, fault, state⟩ :=
    turn_spec params registers refill line cache
  rw [fault, state]
  refine ⟨fun returning => ?_, ?_⟩
  · have length : (Cache.tick params registers taken).state.stages.length =
        taken.stages.length := by
      rw [length_stages, length_stages, tick_lookups]
    rw [length]
    exact (keeps returning).tick
  · rcases advanced_tick params registers free with ⟨running, advanced⟩ | twice
    · refine .inl ⟨running, advanced.waiting, ?_, ?_, ?_⟩
      · rw [advanced.reading, waiting]
      · rw [advanced.checked, reading]
      · rw [advanced.answer, checked]
    · rw [checked] at twice
      exact .inr twice

/-- A lookup that has just been accepted is answered after three steps, unless one that was
accepted earlier hits twice. -/
theorem Returning.answered_of_turns
    (returning : Returning params registers refill line (cache.stages.length - 1) cache)
    {waiting : WaitingLookup} (accepted : cache.waiting = some waiting)
    (same : SameSector refill waiting.lookup.request) :
    ((turns params registers 3 cache).fault = none ∧ ∃ answer,
        (turns params registers 3 cache).state.answer = some answer ∧
          answer.lookup = waiting.lookup ∧
          answer.ShowsLeaves (line.slots.map LeafSlot.toSlot)) ∨
      ∃ other, (cache.checked.map (·.lookup) = some other ∨
          cache.reading.map (·.lookup) = some other) ∧
        (turns params registers 3 cache).fault =
          some (.misuse params.cacheName (.doubleHit other.request)) := by
  simp only [turns]
  obtain ⟨keeps, ⟨running, advanced⟩ | ⟨checked, found, _, stopped⟩⟩ :=
    turn_cases params registers refill line cache
  case inr =>
    refine .inr ⟨checked.lookup, .inl (by rw [found]; rfl), ?_⟩
    rw [Outcome.andThen_of_stopped _ stopped, stopped]
  have first := keeps returning
  rw [Outcome.andThen_fault_of_running _ running, Outcome.andThen_state_of_running _ running]
  generalize (turn params registers cache).state = one at *
  obtain ⟨keeps, ⟨running, further⟩ | ⟨checked, found, _, stopped⟩⟩ :=
    turn_cases params registers refill line one
  case inr =>
    refine .inr ⟨checked.lookup, .inr ?_, ?_⟩
    · rw [← advanced.checked, found]
      rfl
    · rw [Outcome.andThen_of_stopped _ stopped, stopped]
  have second := keeps first
  rw [Outcome.andThen_fault_of_running _ running, Outcome.andThen_state_of_running _ running]
  generalize (turn params registers one).state = two at *
  -- by now the lookup has been checked, and nothing has come after it
  have checkedOurs : two.checked.map (·.lookup) = some waiting.lookup := by
    rw [further.checked, advanced.reading, accepted]
    rfl
  have readingNone : two.reading = none := by
    have none := further.reading
    rw [advanced.waiting] at none
    exact Option.map_eq_none_iff.1 none
  obtain ⟨checked, found, ours⟩ := Option.map_eq_some_iff.1 checkedOurs
  have alone : checked.superpage = none := by
    have youngest : Stage.checked checked ∈ two.stages.drop (two.stages.length - 1) := by
      simp [stages, found, readingNone, further.waiting]
    refine (second.shows _ youngest ?_).2
    change SameSector refill checked.lookup.request
    rwa [ours]
  obtain ⟨keeps, ⟨running, last⟩ | ⟨other, otherFound, twice, _⟩⟩ :=
    turn_cases params registers refill line two
  case inr =>
    rw [found] at otherFound
    cases otherFound
    rw [alone] at twice
    cases twice
  have third := keeps second
  rw [Outcome.andThen_fault_of_running _ running, Outcome.andThen_state_of_running _ running]
  generalize (turn params registers two).state = three at *
  have answeredOurs : three.answer.map (·.lookup) = some waiting.lookup := by
    rw [last.answer, checkedOurs]
  obtain ⟨answer, answerFound, answered⟩ := Option.map_eq_some_iff.1 answeredOurs
  refine .inl ⟨rfl, answer, answerFound, answered, ?_⟩
  have youngest : Stage.answer answer ∈ three.stages.drop (three.stages.length - 1) := by
    have checkedNone := last.checked
    have nothing := last.reading
    rw [readingNone] at checkedNone
    rw [further.waiting] at nothing
    simp [stages, answerFound, last.waiting, Option.map_eq_none_iff.1 checkedNone,
      Option.map_eq_none_iff.1 nothing]
  refine third.shows _ youngest ?_
  change SameSector refill answer.lookup.request
  rwa [answered]

/-- A lookup is accepted behind those on their way, and is answered after three steps. -/
theorem Returning.answered_of_send
    {older : Nat} (returning : Returning params registers refill line older cache)
    (behind : older ≤ cache.lookups.length) (ready : cache.ready params = true)
    {lookup : Lookup} (same : SameSector refill lookup.request) :
    let last := turns params registers 3 (Cache.send params lookup cache).2.state
    (last.fault = none ∧ ∃ answer, last.state.answer = some answer ∧ answer.lookup = lookup ∧
        answer.ShowsLeaves (line.slots.map LeafSlot.toSlot)) ∨
      ∃ other ∈ cache.lookups,
        last.fault = some (.misuse params.cacheName (.doubleHit other.request)) := by
  intro last
  have sent : (Cache.send params lookup cache).2.state =
      { cache with waiting := some { lookup := lookup } } := by
    unfold Cache.send
    rw [if_pos ready]
  have free : cache.waiting = none := by
    unfold Cache.ready at ready
    exact Option.isNone_iff_eq_none.1 (Bool.and_eq_true_iff.1 ready).2
  have length : (Cache.send params lookup cache).2.state.stages.length - 1 =
      cache.lookups.length := by
    rw [length_stages, sent, lookups_of_accepted free, List.length_append,
      List.length_singleton, Nat.add_sub_cancel]
  have youngest : Returning params registers refill line
      ((Cache.send params lookup cache).2.state.stages.length - 1)
      (Cache.send params lookup cache).2.state := by
    rw [length]
    exact (returning.send lookup).mono behind
  have accepted : (Cache.send params lookup cache).2.state.waiting =
      some { lookup := lookup } := by
    rw [sent]
  refine (youngest.answered_of_turns accepted same).imp_right ?_
  rintro ⟨other, member, stopped⟩
  rw [sent] at member
  refine ⟨other, ?_, stopped⟩
  rcases member with checked | reading
  · simp [lookups, checked]
  · simp [lookups, reading]

end Turns

/-! ## The refill and what follows -/

/-- The lookups of a sector that are accepted from now on are leaf hits of eight slots, as
long as the cache is left to its lookups. -/
structure ComesBack (params : Params) (registers : Registers) (refill : Refill)
    (slots : Vector Slot 8) (cache : Cache) : Prop where
  /-- The answers are those of the lookups on their way and of the later ones, in order, and
  the later ones of the sector show the slots. -/
  shown : ∀ moves : List Move, (∀ move ∈ moves, move.travels = true) →
    let ledger :=
      (Ledger.run params moves ⟨⟨cache, registers, [], []⟩, cache.lookups, []⟩).state
    ledger.InOrder ∧ cache.lookups <+: ledger.accepted ∧
      ∀ (index : Nat) (answer : CacheAnswer), ledger.answered[index]? = some answer →
        cache.lookups.length ≤ index → SameSector refill answer.lookup.request →
          answer.ShowsLeaves slots
  /-- At any time later a lookup that is accepted is answered after three steps that begin
  with the answer taken, unless one that was accepted earlier hits twice. -/
  answered : ∀ moves : List Move, (∀ move ∈ moves, move.travels = true) →
    let current :=
      (Ledger.run params moves ⟨⟨cache, registers, [], []⟩, cache.lookups, []⟩).state.history.cache
    ∀ lookup : Lookup, SameSector refill lookup.request → current.ready params = true →
      let last := turns params registers 3 (Cache.send params lookup current).2.state
      (last.fault = none ∧ ∃ answer, last.state.answer = some answer ∧ answer.lookup = lookup ∧
          answer.ShowsLeaves slots) ∨
        ∃ other ∈ current.lookups,
          last.fault = some (.misuse params.cacheName (.doubleHit other.request))

section Back

variable {refill : Refill} {line : SectorLine}

private theorem accepted_perform
    (ledger : Ledger) {move : Move} (travels : move.travels = true) :
    ledger.accepted <+: (ledger.perform params move).state.accepted := by
  cases move with
  | send _ | tick | pop => exact List.prefix_append _ _
  | refill _ | fence _ | flush | install _ | corrupt _ _ _ => cases travels

/-- A cache whose lookups all find one line answers with its slots. -/
theorem Serving.comesBack
    (serving : Serving params registers refill line cache) :
    ComesBack params registers refill (line.slots.map LeafSlot.toSlot) cache := by
  let Kept (ledger : Ledger) : Prop :=
    ledger.InOrder ∧ cache.lookups <+: ledger.accepted ∧
      ledger.Shows params registers refill line cache.lookups.length
  have start : Kept ⟨⟨cache, registers, [], []⟩, cache.lookups, []⟩ := by
    refine ⟨rfl, List.prefix_rfl, rfl, ⟨serving, ?_⟩, ?_⟩
    · have none : cache.stages.drop (cache.lookups.length - 0) = [] :=
        List.drop_eq_nil_of_le (Nat.le_of_eq (length_stages cache))
      rw [List.length_nil, none]
      exact fun _ member => by cases member
    · exact fun _ _ found => by cases found
  have kept (moves : List Move) (travels : ∀ move ∈ moves, move.travels = true) :
      Kept (Ledger.run params moves
        ⟨⟨cache, registers, [], []⟩, cache.lookups, []⟩).state := by
    refine Outcome.forEach_state_induction (fun move member ledger before => ?_) start
    obtain ⟨inOrder, earlier, shows⟩ := before
    have goes := travels move member
    exact ⟨inOrder.perform params move, earlier.trans (accepted_perform ledger goes),
      shows.perform goes⟩
  constructor
  case shown =>
    intro moves travels ledger
    obtain ⟨inOrder, earlier, shows⟩ := kept moves travels
    exact ⟨inOrder, earlier, shows.answered⟩
  case answered =>
    intro moves travels current lookup same ready
    obtain ⟨inOrder, earlier, shows⟩ := kept moves travels
    have behind : cache.lookups.length -
        (Ledger.run params moves
          ⟨⟨cache, registers, [], []⟩, cache.lookups, []⟩).state.answered.length ≤
          current.lookups.length := by
      have counted := congrArg List.length inOrder
      have more := earlier.length_le
      rw [List.length_append, List.length_map] at counted
      change _ + current.lookups.length = _ at counted
      omega
    exact shows.returning.answered_of_send behind ready same

/-- After a leaf refill of any cache in which no superpage covers the sector and no sector is
corrupted, the lookups of the sector come back with the leaves of the refill. The exception
is a line of the sector that serves them in a way below the one that was written: they come
back with that older line. -/
theorem comesBack_of_run
    (created : Cache.create params = .ok cache) (start : Registers) (moves : List Move)
    (counted : params.sectorSets.toNat * params.sectorWays.toNat < UInt32.size)
    (leaf : refill.level = leafLevel) :
    let history := (History.run params moves ⟨cache, start, [], []⟩).state
    let before := history.cache
    let outcome := Cache.refill params history.registers refill before
    before.takes params refill = true → SectorsCoded before →
      Uncovered history.registers refill before →
      outcome.fault = none ∧
      (olderSector params history.registers refill before = none →
        ComesBack params history.registers refill
          (refill.block.map fun word =>
            (⟨word⟩ : Pte).decoded refill.request.mode params.addressBits leafLevel)
          outcome.state) ∧
      ∀ hit, olderSector params history.registers refill before = some hit →
        ComesBack params history.registers refill (hit.line.slots.map LeafSlot.toSlot)
          outcome.state := by
  intro history before outcome taken coded uncovered
  obtain ⟨positive, fits⟩ := sectorsFit_of_create created
  have housed : SectorsFit params before :=
    Outcome.forEach_state_induction
      (fun move _ (current : History) (kept : SectorsFit params current.cache) =>
        kept.perform move) fits
  have refilled : LeafRefilled params history.registers refill before outcome.state :=
    leafRefilled_of_takes taken leaf
  have serving : Serving params history.registers refill
      (currentSector params history.registers refill before) outcome.state :=
    { sector := fun _ same => refilled.findSector housed positive counted same
      alone := fun _ same => by
        refine Uncovered.findSuperpage (fun line member => ?_) same
        rw [refilled.superpages] at member
        exact uncovered line member
      coded := refilled.coded coded }
  have back := serving.comesBack
  refine ⟨(refill_spec params history.registers before (Nat.le_of_eq leaf)).2.running,
    fun none => ?_, fun hit found => ?_⟩
  · have slots : (currentSector params history.registers refill before).slots.map
        LeafSlot.toSlot = refill.block.map fun word =>
          (⟨word⟩ : Pte).decoded refill.request.mode params.addressBits leafLevel := by
      unfold currentSector codedSector refilledSector
      rw [none, Vector.map_map]
      exact congrArg (refill.block.map ·) (funext fun word =>
        toSlot_ofPte_decoded refill.request.mode params.addressBits ⟨word⟩)
    rwa [slots] at back
  · unfold currentSector at back
    rwa [found] at back

/-- The sector was refilled under another address space before, in a lower way. -/
theorem comesBack_of_small_run :
    let refill (vpn word : Word) : Refill :=
      { level := leafLevel, request := { vpn }, selected := ⟨word⟩
        block := Vector.replicate 8 word }
    let again : Refill := refill 6 0x20ccf
    let moves : List Move :=
      [.refill (refill 5 0x1dccf), .tick, .install { satp := { space := 7 } }]
    let lookups : List Move :=
      [.tick, .send { request := { vpn := 7 } }, .tick, .tick, .tick, .pop]
    let slots : Vector Slot 8 := again.block.map fun word =>
      (⟨word⟩ : Pte).decoded again.request.mode Params.small.addressBits leafLevel
    let written (history : History) : Cache :=
      (Cache.refill .small history.registers again history.cache).state
    ∃ cache history, Cache.create .small = .ok cache ∧
      history = (History.run .small moves ⟨cache, {}, [], []⟩).state ∧
      history.cache.takes .small again = true ∧ SectorsCoded history.cache ∧
      Uncovered history.registers again history.cache ∧
      refilledWay .small again history.cache = 1 ∧
      olderSector .small history.registers again history.cache = none ∧
      (Ledger.run .small lookups
          ⟨⟨written history, history.registers, [], []⟩, [], []⟩).state.answered.map
        (fun answer => (answer.hit, answer.stageOne.slots)) = [(true, slots)] ∧
      ComesBack .small history.registers again slots (written history) := by
  intro refill again moves lookups slots written
  have uncorrupted : ∀ move ∈ moves, move.corrupts = false := by
    simp [moves, Move.corrupts]
  have created : Cache.create .small = .ok _ := rfl
  obtain ⟨cache, made⟩ : ∃ cache, Cache.create .small = .ok cache := ⟨_, created⟩
  obtain ⟨history, reached⟩ : ∃ history,
      history = (History.run .small moves ⟨cache, {}, [], []⟩).state := ⟨_, rfl⟩
  obtain ⟨taken, invalid, way, none, answered⟩ :
      history.cache.takes .small again = true ∧
        (∀ line ∈ history.cache.superpages, line.tag.valid = false) ∧
        refilledWay .small again history.cache = 1 ∧
        olderSector .small history.registers again history.cache = none ∧
        (Ledger.run .small lookups
            ⟨⟨written history, history.registers, [], []⟩, [], []⟩).state.answered.map
          (fun answer => (answer.hit, answer.stageOne.slots)) = [(true, slots)] := by
    subst reached
    cases made
    decide +kernel
  have coded : SectorsCoded history.cache := by
    rw [reached]
    exact (intact_of_run made {} uncorrupted).1.sectorsCoded
  have uncovered := uncovered_of_invalid history.registers again invalid
  have comesBack : ComesBack .small history.registers again slots (written history) := by
    subst reached
    exact (comesBack_of_run made {} moves (by decide) rfl taken coded uncovered).2.1 none
  exact ⟨cache, history, made, reached, taken, coded, uncovered, way, none, answered,
    comesBack⟩

end Back

/-- A sector is refilled twice, first into way 0 and then into way 1: the lookup that comes
after is answered with the leaves of the first refill. -/
theorem older_leaves_of_small_run :
    let refill (word : Word) : Refill :=
      { level := leafLevel, request := { vpn := 5 }, selected := ⟨word⟩
        block := Vector.replicate 8 word }
    let shown (word : Word) : Vector Slot 8 := (refill word).block.map fun word =>
      (⟨word⟩ : Pte).decoded .direct Params.small.addressBits leafLevel
    let moves : List Move :=
      [.refill (refill 0x1dccf), .tick, .refill (refill 0x20ccf), .tick,
        .send { request := { vpn := 5 } }, .tick, .tick, .tick]
    shown 0x1dccf ≠ shown 0x20ccf ∧ ∃ cache, Cache.create .small = .ok cache ∧
      let before := (History.run .small (moves.take 2) ⟨cache, {}, [], []⟩).state.cache
      let last := (History.run .small moves ⟨cache, {}, [], []⟩).state.cache
      before.takes .small (refill 0x20ccf) = true ∧ before.validSuperpages = 0 ∧
        last.answer.map (fun answer => (answer.hit, answer.stageOne.slots)) =
          some (true, shown 0x1dccf) := by
  intro refill shown moves
  have created : Cache.create .small = .ok _ := rfl
  exact ⟨by decide +kernel, _, created, by decide +kernel, by decide +kernel,
    by decide +kernel⟩

end Cache

end PageWalk
