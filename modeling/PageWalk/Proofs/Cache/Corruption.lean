import PageWalk.Proofs.Cache.Examination
import PageWalk.Proofs.Cache.History

/-!
# Corrupted lines

A line that is read for a lookup and does not match its code costs its set and the hit, and
nothing else. An observer writes down what the storages held for each lookup when they were
read for it. When the lookup is checked, the set of a corrupted line is cleared and every
other line stays as it is, whatever has happened to the storages since they were read; the
answer is the one that the lookup would get if its storages had missed.
-/

namespace PageWalk

namespace Cache

/-! ## The lookups that were read -/

/-- A history with what the storages held for the lookups that were read and have not left
the cache, oldest first. -/
structure Survey where
  history : History
  reads : List ReadLookup := []

namespace Survey

/-- Makes a move and writes down what was read in it. -/
def perform (params : Params) (move : Move) (survey : Survey) : Outcome Survey :=
  let before := survey.history.cache
  let registers := survey.history.registers
  (survey.history.perform params move).map fun after =>
    { history := after
      reads :=
        match move with
        | .tick =>
            match before.waiting, after.cache.waiting with
            | some waiting, none =>
                survey.reads ++
                  [Cache.read params registers waiting (before.beforeRead params registers)]
            | _, _ => survey.reads
        | .pop => if before.answer.isSome then survey.reads.tail else survey.reads
        | .fence _ | .flush => []
        | _ => survey.reads }

/-- Makes moves until one of them stops the cache. -/
def run (params : Params) (moves : List Move) (survey : Survey) : Outcome Survey :=
  Outcome.forEach (perform params) moves survey

end Survey

/-- What a step that checks a lookup does to the storages: a corrupted line costs its set,
and every line at another position stays what it was. Positions of two sets differ if the
lines of the storage can be counted in 32 bits. -/
structure Clears (params : Params) (read : ReadLookup) (cache after : Cache) : Prop where
  middleSet : read.middleCorrupted cache.code = true → ∀ way < params.middleWays.toNat,
    (after.middleLine params (middleSet params read.lookup.request.vpn) way).tag.valid = false
  sectorSet : read.sectorCorrupted cache.code = true → ∀ way < params.sectorWays.toNat,
    (after.sectorLine params (sectorSet params read.lookup.request.vpn) way).tag.valid = false
  middles : ∀ position,
    (read.middleCorrupted cache.code = true → position ∉
      setPositions params.middleWays (Cache.middleSet params read.lookup.request.vpn)) →
    after.middles[position]? = cache.middles[position]?
  sectors : ∀ position,
    (read.sectorCorrupted cache.code = true → position ∉
      setPositions params.sectorWays (Cache.sectorSet params read.lookup.request.vpn)) →
    after.sectors[position]? = cache.sectors[position]?
  otherMiddleSets : params.middleSets.toNat * params.middleWays.toNat ≤ UInt32.size →
    ∀ set < params.middleSets, set ≠ Cache.middleSet params read.lookup.request.vpn →
      ∀ way < params.middleWays.toNat,
        after.middleLine params set way = cache.middleLine params set way
  otherSectorSets : params.sectorSets.toNat * params.sectorWays.toNat ≤ UInt32.size →
    ∀ set < params.sectorSets, set ≠ Cache.sectorSet params read.lookup.request.vpn →
      ∀ way < params.sectorWays.toNat,
        after.sectorLine params set way = cache.sectorLine params set way
  roots : after.roots = cache.roots
  superpages : after.superpages = cache.superpages

end Cache

/-- What an answer reports of what was read for its lookup: whether a line was corrupted,
and otherwise what it would report if the storage of that line had missed. A hit is a line
that matches its code. -/
structure CacheAnswer.Reports (code : LineCode) (read : ReadLookup) (answer : CacheAnswer) :
    Prop where
  lookup : answer.lookup = read.lookup
  corrupted : answer.corrupted = (read.middleCorrupted code || read.sectorCorrupted code)
  middleMiss : read.middleCorrupted code = true → answer.hint.middle = false
  sectorMiss : read.sectorCorrupted code = true → answer.sectorHit = false
  spares : ∃ registers bypassed,
    answer =
      { Cache.answerOf registers ((read.sound code).examine code) with
        corrupted := answer.corrupted
        bypassed := bypassed }
  middle : answer.hint.middle = true → ∃ hit, read.middle = some hit ∧
    hit.line.Coded code ∧ answer.hint.ppn = hit.line.ppn
  sector : answer.sectorHit = true → ∃ hit, read.sector = some hit ∧
    hit.line.Coded code ∧ answer.stageOne.level = leafLevel ∧
      answer.stageOne.slots = hit.line.slots.map LeafSlot.toSlot

namespace Cache

/-! ## What stages hold -/

/-- The stages whose lookups were read, the oldest lookup first. -/
def readStages (cache : Cache) : List Stage :=
  (cache.answer.map .answer).toList ++ (cache.checked.map .checked).toList ++
    (cache.reading.map .reading).toList

/-- What a stage holds of a lookup as it was read. The marks that refills leave play no
part. -/
def Shows (code : LineCode) : Stage → ReadLookup → Prop
  | .waiting _, _ => False
  | .reading held, read => ∃ bypass, held = { read with bypass := bypass }
  | .checked held, read => ∃ bypass, held = { read.examine code with bypass := bypass }
  | .answer held, read => ∃ registers bypassed,
      held = { answerOf registers (read.examine code) with bypassed := bypassed }

variable {code : LineCode} {cache after : Cache} {reads : List ReadLookup}

theorem Shows.check
    {held : ReadLookup} {read : ReadLookup} (seen : Shows code (.reading held) read) :
    Shows code (.checked (held.examine code)) read := by
  obtain ⟨bypass, rfl⟩ := seen
  exact ⟨bypass, rfl⟩

theorem Shows.respond
    {held : CheckedLookup} {read : ReadLookup} (seen : Shows code (.checked held) read)
    (registers : Registers) : Shows code (.answer (answerOf registers held)) read := by
  obtain ⟨bypass, rfl⟩ := seen
  exact ⟨registers, _, rfl⟩

theorem Shows.mark
    {stage : Stage} {read : ReadLookup} (seen : Shows code stage read) (refill : Refill) :
    Shows code (stage.mark refill) read := by
  cases stage with
  | waiting held => exact seen
  | reading held =>
      obtain ⟨bypass, rfl⟩ := seen
      exact ⟨_, rfl⟩
  | checked held =>
      obtain ⟨bypass, rfl⟩ := seen
      exact ⟨_, rfl⟩
  | answer held =>
      obtain ⟨registers, bypassed, rfl⟩ := seen
      unfold Stage.mark markAnswer
      dsimp only
      split
      · exact ⟨registers, _, rfl⟩
      · exact ⟨registers, bypassed, rfl⟩

theorem readStages_markLookups (refill : Refill) (cache : Cache) :
    (markLookups refill cache).readStages = cache.readStages.map (Stage.mark refill) := by
  unfold readStages markLookups
  cases cache.answer <;> cases cache.checked <;> cases cache.reading <;> rfl

theorem SameStages.readStages (same : SameStages cache after) :
    after.readStages = cache.readStages := by
  unfold Cache.readStages
  rw [same.reading, same.checked, same.answer]

/-! ## One step -/

private theorem shows_respondStage
    (params : Params) (registers : Registers)
    (shown : List.Forall₂ (Shows code) cache.readStages reads) :
    List.Forall₂ (Shows code) (respondStage params registers cache).state.readStages reads := by
  unfold respondStage
  split
  · rename_i held free found
    unfold respond
    split
    · exact shown
    · have before : cache.readStages =
          [] ++ .checked held :: (cache.reading.map .reading).toList := by
        simp [Cache.readStages, free, found]
      rw [before] at shown
      have after := History.forall₂_advance shown fun _ seen => seen.respond registers
      simpa [Cache.readStages] using after
  · exact shown

private theorem shows_checkStage
    (params : Params) (uses : cache.code = code)
    (shown : List.Forall₂ (Shows code) cache.readStages reads) :
    List.Forall₂ (Shows code) (checkStage params cache).state.readStages reads := by
  cases due : cache.dueForCheck with
  | none =>
      rw [checkStage_of_not_due due]
      exact shown
  | some held =>
      obtain ⟨found, free⟩ := dueForCheck_spec due
      obtain ⟨_, _, reading, checked, answer⟩ := checkStage_of_due params due
      have before : cache.readStages =
          (cache.answer.map .answer).toList ++ .reading held :: [] := by
        simp [Cache.readStages, free, found]
      rw [before] at shown
      have after := History.forall₂_advance shown fun _ => Shows.check
      simpa [Cache.readStages, reading, checked, answer, uses] using after

/-- What the storages hold for the lookup that waits is written down when it is read. -/
private theorem shows_readStage
    (params : Params) (registers : Registers)
    (shown : List.Forall₂ (Shows code) cache.readStages reads) :
    List.Forall₂ (Shows code) (readStage params registers cache).readStages
      (match cache.waiting, (readStage params registers cache).waiting with
        | some waiting, none => reads ++ [Cache.read params registers waiting cache]
        | _, _ => reads) := by
  unfold readStage
  split
  · rename_i waiting free found
    have last : Shows code (.reading (Cache.read params registers waiting cache))
        (Cache.read params registers waiting cache) := ⟨_, rfl⟩
    have after := List.rel_append shown (.cons last .nil)
    rw [found]
    simpa [Cache.readStages, free] using after
  · split
    · rename_i found free
      rw [found] at free
      cases free
    · exact shown

theorem waiting_respondStage (params : Params) (registers : Registers) (cache : Cache) :
    (respondStage params registers cache).state.waiting = cache.waiting := by
  unfold respondStage
  split
  · unfold respond
    split
    · rfl
    · rfl
  · rfl

theorem waiting_checkStage (params : Params) (cache : Cache) :
    (checkStage params cache).state.waiting = cache.waiting := by
  cases due : cache.dueForCheck with
  | none => rw [checkStage_of_not_due due]
  | some read => exact (checkStage_of_due _ due).2.1

private theorem shows_tick
    (params : Params) (registers : Registers) (uses : cache.code = code)
    (shown : List.Forall₂ (Shows code) cache.readStages reads) :
    List.Forall₂ (Shows code) (tick params registers cache).state.readStages
      (match cache.waiting, (tick params registers cache).state.waiting with
        | some waiting, none =>
            reads ++ [Cache.read params registers waiting (cache.beforeRead params registers)]
        | _, _ => reads) := by
  have answered := shows_respondStage params registers shown
  have waiting := waiting_respondStage params registers cache
  have uses := (sameStorages_respondStage params registers cache).code.trans uses
  unfold tick beforeRead
  generalize respondStage params registers cache = responded at *
  rw [← waiting]
  cases stopped : responded.fault with
  | some fault =>
      rw [Outcome.andThen_of_stopped _ stopped]
      split
      · rename_i found free
        rw [found] at free
        cases free
      · exact answered
  | none =>
      have second := (checkStage_lookups params responded.state).2
      have last := shows_readStage params registers (shows_checkStage params uses answered)
      rw [waiting_checkStage] at last
      rw [Outcome.andThen_state_of_running _ stopped,
        Outcome.andThen_state_of_running _ second.running]
      exact last

/-! ## Histories -/

theorem code_tick (params : Params) (registers : Registers) (cache : Cache) :
    (tick params registers cache).state.code = cache.code := by
  cases next : nextChecked? params registers cache with
  | none => exact (tick_of_unchecked next).code
  | some read => exact (tick_of_checked next).code

theorem code_refill
    (params : Params) (registers : Registers) (refill : Refill) (cache : Cache) :
    (Cache.refill params registers refill cache).state.code = cache.code := by
  rcases refill_cases params registers refill cache with ⟨_, _, state⟩ | ⟨_, _, _, state⟩
  · rw [state]
    unfold store
    split
    · split
      · rfl
      · split
        · rfl
        · rfl
    · split
      · rfl
      · rfl
  · rw [state]

theorem code_corrupt (params : Params) (level : Nat) (set way : UInt32) (cache : Cache) :
    (corrupt params level set way cache).state.code = cache.code := by
  obtain ⟨middles, sectors, same⟩ := corrupt_frame params level set way cache
  rw [same]

/-- Every stage holds what was read for its lookup. -/
structure Recorded (code : LineCode) (survey : Survey) : Prop where
  uses : survey.history.cache.code = code
  reads : List.Forall₂ (Shows code) survey.history.cache.readStages survey.reads

variable {survey : Survey}

private theorem forall₂_mark
    (shown : List.Forall₂ (Shows code) cache.readStages reads) (refill : Refill) :
    List.Forall₂ (Shows code) (cache.readStages.map (Stage.mark refill)) reads :=
  List.forall₂_map_left_iff.2 (shown.imp fun _ _ seen => seen.mark refill)

/-- A refill marks lookups but changes nothing of what was read for them. -/
private theorem shows_refill
    (params : Params) (registers : Registers) (refill : Refill)
    (shown : List.Forall₂ (Shows code) cache.readStages reads) :
    List.Forall₂ (Shows code) (Cache.refill params registers refill cache).state.readStages
      reads := by
  rcases refill_cases params registers refill cache with ⟨_, level, state⟩ | ⟨_, _, _, state⟩
  · have same := (store_spec params registers { cache with refilled := true } level).1
    rw [state, readStages_markLookups, same.readStages]
    exact forall₂_mark shown refill
  · rw [state]
    exact shown

private theorem shows_pop
    (params : Params) (shown : List.Forall₂ (Shows code) cache.readStages reads) :
    List.Forall₂ (Shows code) (pop params cache).state.readStages
      (if cache.answer.isSome then reads.tail else reads) := by
  unfold pop
  cases found : cache.answer with
  | none => exact shown
  | some answer =>
      have before : cache.readStages =
          .answer answer :: (cache.withoutAnswer answer).readStages := by
        simp [Cache.readStages, withoutAnswer, found]
      rw [before] at shown
      cases shown with
      | cons first rest => exact rest

theorem Recorded.perform (recorded : Recorded code survey) (params : Params) (move : Move) :
    Recorded code (survey.perform params move).state := by
  obtain ⟨uses, reads⟩ := recorded
  cases move with
  | send lookup =>
      obtain ⟨_, ⟨_, _, state⟩ | ⟨_, _, state⟩⟩ :=
        send_cases params lookup survey.history.cache
      all_goals
        constructor
        · change (Cache.send params lookup survey.history.cache).2.state.code = code
          rw [state]
          exact uses
        · change List.Forall₂ (Shows code)
            (Cache.send params lookup survey.history.cache).2.state.readStages survey.reads
          rw [state]
          exact reads
  | tick =>
      exact ⟨(code_tick _ _ _).trans uses, shows_tick params survey.history.registers uses reads⟩
  | pop =>
      refine ⟨?_, shows_pop params reads⟩
      change (Cache.pop params survey.history.cache).state.code = code
      unfold Cache.pop
      split
      · exact uses
      · exact uses
  | refill refill =>
      have same : (survey.perform params (.refill refill)).state.history.cache =
          (Cache.refill params survey.history.registers refill survey.history.cache).state :=
        cache_perform_refill params refill survey.history
      refine ⟨?_, ?_⟩
      · rw [same, code_refill]
        exact uses
      · rw [same]
        exact shows_refill params survey.history.registers refill reads
  | fence fence => exact ⟨uses, .nil⟩
  | flush => exact ⟨uses, .nil⟩
  | install registers => exact ⟨uses, reads⟩
  | corrupt level set way =>
      have stages := (corrupt_stages params level set way survey.history.cache).readStages
      refine ⟨(code_corrupt _ _ _ _ _).trans uses, ?_⟩
      change List.Forall₂ (Shows code)
        (Cache.corrupt params level set way survey.history.cache).state.readStages survey.reads
      rw [stages]
      exact reads

theorem recorded_of_create
    {params : Params} (created : Cache.create params = .ok cache) (registers : Registers) :
    Recorded cache.code { history := ⟨cache, registers, [], []⟩ } := by
  obtain ⟨_, _, _, _, _, _, _, _, _, rfl⟩ := create_spec created
  exact ⟨rfl, .nil⟩

/-! ## What a check costs and an answer reports -/

theorem reports_of_shows
    {answer : CacheAnswer} {read : ReadLookup} (seen : Shows code (.answer answer) read) :
    answer.Reports code read := by
  obtain ⟨registers, bypassed, rfl⟩ := seen
  refine ⟨rfl, rfl, ?_, ?_, ⟨registers, bypassed, ?_⟩, ?_, ?_⟩
  · intro corrupted
    change ((read.sound code).middle.map (·.line)).isSome = false
    rw [ReadLookup.middle_sound_of_corrupted corrupted]
    rfl
  · intro corrupted
    change ((read.sound code).sector.map (·.line)).isSome = false
    rw [ReadLookup.sector_sound_of_corrupted corrupted]
    rfl
  · rw [ReadLookup.examine_sound]
    rfl
  · intro hits
    obtain ⟨line, found⟩ := Option.isSome_iff_exists.1 hits
    obtain ⟨hit, passed, rfl⟩ := Option.map_eq_some_iff.1 found
    obtain ⟨here, coded⟩ := ReadLookup.middle_of_sound passed
    refine ⟨hit, here, coded, ?_⟩
    unfold answerOf
    rw [found]
  · intro hits
    obtain ⟨line, found⟩ := Option.isSome_iff_exists.1 hits
    obtain ⟨hit, passed, rfl⟩ := Option.map_eq_some_iff.1 found
    obtain ⟨here, coded⟩ := ReadLookup.sector_of_sound passed
    refine ⟨hit, here, coded, ?_⟩
    unfold answerOf answerStageOne
    rw [found]
    exact ⟨rfl, rfl⟩

private theorem getD_invalid
    {Line : Type} {tag : Line → LineTag} {lines : Array Line} {missing : Line} {position : Nat}
    (invalid : ∀ line, lines[position]? = some line → (tag line).valid = false)
    (none : (tag missing).valid = false) : (tag (lines.getD position missing)).valid = false := by
  rw [Array.getD_eq_getD_getElem?]
  cases found : lines[position]? with
  | none => exact none
  | some line => exact invalid line found

/-- A line of another set is not among those of the selected set. -/
private theorem not_mem_of_other
    {sets ways set : UInt32} {region : Word} (fits : sets.toNat * ways.toNat ≤ UInt32.size)
    (inside : set < sets) (other : set ≠ selectedSet sets region) {way : Nat}
    (wayInside : way < ways.toNat) :
    (set * ways + UInt32.ofNat way).toNat ∉ setPositions ways (selectedSet sets region) := by
  intro member
  have positive : 0 < sets := by
    rw [UInt32.lt_iff_toNat_lt] at inside ⊢
    exact Nat.lt_of_le_of_lt (Nat.zero_le _) inside
  exact other (set_eq_of_position fits inside (selectedSet_lt positive region)
    (mem_setPositions ways set wayInside) member)

theorem Examined.clears
    {params : Params} {read : ReadLookup} (examined : Examined params read cache after) :
    Clears params read cache after where
  middleSet := fun corrupted way inside => by
    refine getD_invalid (fun line found => ?_) rfl
    have member := mem_setPositions params.middleWays
      (Cache.middleSet params read.lookup.request.vpn) inside
    rw [middlePosition, examined.middles, if_pos ⟨corrupted, member⟩] at found
    obtain ⟨before, _, rfl⟩ := Option.map_eq_some_iff.1 found
    rfl
  sectorSet := fun corrupted way inside => by
    refine getD_invalid (fun line found => ?_) rfl
    have member := mem_setPositions params.sectorWays
      (Cache.sectorSet params read.lookup.request.vpn) inside
    rw [sectorPosition, examined.sectors, if_pos ⟨corrupted, member⟩] at found
    obtain ⟨before, _, rfl⟩ := Option.map_eq_some_iff.1 found
    rfl
  middles := fun position outside => by
    rw [examined.middles, if_neg fun both => outside both.1 both.2]
  sectors := fun position outside => by
    rw [examined.sectors, if_neg fun both => outside both.1 both.2]
  otherMiddleSets := fun fits set inside other way wayInside => by
    have outside := not_mem_of_other fits inside other wayInside
    rw [middleLine, middleLine, Array.getD_eq_getD_getElem?, Array.getD_eq_getD_getElem?,
      middlePosition, examined.middles, if_neg fun both => outside both.2]
  otherSectorSets := fun fits set inside other way wayInside => by
    have outside := not_mem_of_other fits inside other wayInside
    rw [sectorLine, sectorLine, Array.getD_eq_getD_getElem?, Array.getD_eq_getD_getElem?,
      sectorPosition, examined.sectors, if_neg fun both => outside both.2]
  roots := examined.roots
  superpages := examined.superpages

/-- The lookup that the next step checks is the last one that was read. -/
private theorem Recorded.nextChecked
    {params : Params} {registers : Registers} {read : ReadLookup}
    (recorded : Recorded code survey)
    (next : nextChecked? params registers survey.history.cache = some read) :
    ∃ last bypass, survey.reads.getLast? = some last ∧ read = { last with bypass := bypass } := by
  have reads := shows_respondStage params registers recorded.reads
  unfold nextChecked? at next
  dsimp only at next
  split at next
  case isFalse => cases next
  obtain ⟨found, free⟩ := dueForCheck_spec next
  have newest : (respondStage params registers survey.history.cache).state.readStages =
      ((respondStage params registers survey.history.cache).state.answer.map .answer).toList ++
        [.reading read] := by
    simp [Cache.readStages, found, free]
  rw [newest] at reads
  have backwards := List.rel_reverse reads
  rw [List.reverse_append] at backwards
  obtain ⟨last, older, ⟨bypass, same⟩, _, order⟩ := List.forall₂_cons_left_iff.1 backwards
  refine ⟨last, bypass, ?_, same⟩
  rw [List.getLast?_eq_head?_reverse, order]
  rfl

/-- At every point of a history, whatever lines have been corrupted: the next step clears
the sets of the lines that do not match their codes among those that were read for the
lookup that it checks, and changes no other line; and the answer reports of what was read
for its lookup only lines that match their codes. -/
theorem corruption_of_run
    {params : Params} (created : Cache.create params = .ok cache) (registers : Registers)
    (moves : List Move) :
    let survey := (Survey.run params moves { history := ⟨cache, registers, [], []⟩ }).state
    let current := survey.history.cache
    (∀ registers read, nextChecked? params registers current = some read →
        (∃ last bypass, survey.reads.getLast? = some last ∧
            read = { last with bypass := bypass }) ∧
          Clears params read current (tick params registers current).state) ∧
      ∀ answer, current.answer = some answer →
        ∃ read, survey.reads.head? = some read ∧ answer.Reports cache.code read := by
  intro survey current
  have start : Recorded cache.code { history := ⟨cache, registers, [], []⟩ } :=
    recorded_of_create created registers
  have recorded : Recorded cache.code survey :=
    Outcome.forEach_state_induction (fun move _ _ before => before.perform params move) start
  refine ⟨fun registers read next => ⟨recorded.nextChecked next, ?_⟩, fun answer found => ?_⟩
  · exact (tick_of_checked next).clears
  · have oldest : survey.history.cache.readStages = .answer answer ::
        ((current.checked.map .checked).toList ++ (current.reading.map .reading).toList) := by
      simp [Cache.readStages, current] at found ⊢
      simp [found]
    have reads := recorded.reads
    rw [oldest] at reads
    obtain ⟨read, others, first, _, order⟩ := List.forall₂_cons_left_iff.1 reads
    exact ⟨read, by rw [order]; rfl, reports_of_shows first⟩

/-- A sector is corrupted while a pointer of the same region is not. The lookup has
missed the sector, reports it, and hits the pointer. -/
theorem corruption_of_small_run :
    let block : Block := Vector.replicate 8 0x1dccf
    let moves : List Move :=
      [.refill { level := leafLevel, request := { vpn := 5 }, selected := ⟨0x1dccf⟩, block },
        .refill { level := 1, request := { vpn := 5 }, selected := ⟨0x801⟩ }, .tick,
        .corrupt 2 0 0, .send { request := { vpn := 6 } }, .tick, .tick, .tick]
    ∃ cache, Cache.create .small = .ok cache ∧
      let survey := (Survey.run .small moves { history := ⟨cache, {}, [], []⟩ }).state
      let current := survey.history.cache
      (survey.reads.map (·.sectorCorrupted cache.code),
          current.answer.map fun answer =>
            (answer.corrupted, answer.sectorHit, answer.hint.middle)) =
          ([true], some (true, false, true)) ∧
        (∀ registers read, nextChecked? .small registers current = some read →
            (∃ last bypass, survey.reads.getLast? = some last ∧
                read = { last with bypass := bypass }) ∧
              Clears .small read current (tick .small registers current).state) ∧
          ∀ answer, current.answer = some answer →
            ∃ read, survey.reads.head? = some read ∧ answer.Reports cache.code read := by
  intro block moves
  have created : Cache.create .small = .ok _ := rfl
  exact ⟨_, created, by decide +kernel, corruption_of_run created {} moves⟩

end Cache

end PageWalk
