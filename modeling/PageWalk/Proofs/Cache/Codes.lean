import PageWalk.Proofs.Cache.Examination
import PageWalk.Proofs.Cache.Origins

/-!
# Codes that match their lines

Refills write the code of a middle line or a sector after all that it covers, and nothing
else in the cache changes what it covers: to invalidate a line leaves its words alone. So as
long as no line is corrupted from outside, every stored line matches its code, also one that
is not valid, and so does every line that was read. The check then passes all lines and
clears no set.
-/

namespace PageWalk

theorem PointerLine.coded_default (code : LineCode) : PointerLine.Coded code {} := by
  cases code <;> rfl

theorem SectorLine.coded_default (code : LineCode) : SectorLine.Coded code {} := by
  cases code
  · rfl
  · exact (by decide : (0 : UInt8) = LineCode.parity.encode (SectorLine.words {}))

/-- The lines that a lookup has kept match their codes, and it has met no other. -/
structure CheckedLookup.Coded (code : LineCode) (checked : CheckedLookup) : Prop where
  middle : ∀ line, checked.middle = some line → line.Coded code
  sector : ∀ line, checked.sector = some line → line.Coded code
  uncorrupted : checked.corrupted = false

theorem ReadLookup.Coded.examine
    {code : LineCode} {read : ReadLookup} (coded : read.Coded code) :
    (read.examine code).Coded code := by
  refine ⟨?_, ?_, ?_⟩
  · intro line found
    obtain ⟨hit, passed, rfl⟩ := Option.map_eq_some_iff.1 found
    exact (ReadLookup.middle_of_sound passed).2
  · intro line found
    obtain ⟨hit, passed, rfl⟩ := Option.map_eq_some_iff.1 found
    exact (ReadLookup.sector_of_sound passed).2
  · obtain ⟨middle, sector⟩ := coded.uncorrupted
    exact Bool.or_eq_false_iff.2 ⟨middle, sector⟩

namespace Cache

/-- Every line that a cache stores or has read for a lookup matches its code, and no lookup
has met a line that did not. -/
structure Intact (code : LineCode) (cache : Cache) : Prop where
  uses : cache.code = code
  middles : ∀ line ∈ cache.middles, line.Coded code
  sectors : ∀ line ∈ cache.sectors, line.Coded code
  reading : ∀ read, cache.reading = some read → read.Coded code
  checked : ∀ checked, cache.checked = some checked → checked.Coded code
  answer : ∀ answer, cache.answer = some answer → answer.corrupted = false
  cleared : cache.counters.corruptedSets = 0

variable {code : LineCode} {cache after : Cache} {params : Params} {registers : Registers}

theorem intact_of_create (created : Cache.create params = .ok cache) :
    cache.Intact cache.code := by
  obtain ⟨_, _, _, _, _, _, _, _, _, rfl⟩ := create_spec created
  constructor
  case middles =>
    intro line member
    rw [(Array.mem_replicate.1 member).2]
    exact PointerLine.coded_default _
  case sectors =>
    intro line member
    rw [(Array.mem_replicate.1 member).2]
    exact SectorLine.coded_default _
  case reading | checked | answer =>
    intro _ found
    cases found
  case uses | cleared => rfl

/-! ## One step -/

theorem Intact.respondStage
    (intact : cache.Intact code) (params : Params) (registers : Registers) :
    (respondStage params registers cache).state.Intact code := by
  unfold Cache.respondStage
  split
  · rename_i checked _ found
    unfold Cache.respond
    split
    · exact intact
    · have uncorrupted : (answerOf registers checked).corrupted = false :=
        (intact.checked checked found).uncorrupted
      generalize answerOf registers checked = answer at uncorrupted ⊢
      refine ⟨intact.uses, intact.middles, intact.sectors, intact.reading, ?_, ?_,
        intact.cleared⟩
      · intro _ gone
        cases gone
      · intro other same
        cases same
        exact uncorrupted
  · exact intact

/-- The check of lines that match their codes leaves the storages as they are. -/
theorem Examined.same_of_coded
    {read : ReadLookup} (examined : Examined params read cache after)
    (coded : read.Coded cache.code) : SameStorages cache after := by
  obtain ⟨middle, sector⟩ := coded.uncorrupted
  refine ⟨examined.code, examined.roots, ?_, ?_, examined.superpages, ?_⟩
  · refine Array.ext_getElem? fun position => ?_
    rw [examined.middles, middle, if_neg (fun both => Bool.noConfusion both.1)]
  · refine Array.ext_getElem? fun position => ?_
    rw [examined.sectors, sector, if_neg (fun both => Bool.noConfusion both.1)]
  · rw [examined.counted, middle, sector]
    rfl

theorem Intact.checkStage (intact : cache.Intact code) (params : Params) :
    (checkStage params cache).state.Intact code := by
  cases due : cache.dueForCheck with
  | none =>
      rw [checkStage_of_not_due due]
      exact intact
  | some read =>
      obtain ⟨found, _⟩ := dueForCheck_spec due
      obtain ⟨examined, _, reading, checked, answer⟩ := checkStage_of_due params due
      have coded : read.Coded cache.code := by
        rw [intact.uses]
        exact intact.reading read found
      have same := examined.same_of_coded coded
      generalize (Cache.checkStage params cache).state = after at *
      constructor
      case uses => exact same.code.trans intact.uses
      case middles =>
        rw [same.middles]
        exact intact.middles
      case sectors =>
        rw [same.sectors]
        exact intact.sectors
      case reading =>
        intro _ taken
        rw [reading] at taken
        cases taken
      case checked =>
        intro other left
        rw [checked] at left
        cases left
        rw [← intact.uses]
        exact coded.examine
      case answer =>
        rw [answer]
        exact intact.answer
      case cleared => exact same.counted.trans intact.cleared

theorem getD_of_forall
    {Line : Type} {fact : Line → Prop} {lines : Array Line} {missing : Line}
    (each : ∀ line ∈ lines, fact line) (none : fact missing) (index : Nat) :
    fact (lines.getD index missing) := by
  rw [Array.getD_eq_getD_getElem?]
  cases found : lines[index]? with
  | none => exact none
  | some line => exact each line (Array.mem_of_getElem? found)

private theorem line_of_findMiddle
    {request : Request} {hit : Hit PointerLine}
    (found : cache.findMiddle params registers request = some hit) :
    hit.line = cache.middleLine params (middleSet params request.vpn) hit.way := by
  unfold findMiddle at found
  exact (spec_of_firstHit found).2.1

theorem line_of_findSector
    {request : Request} {hit : Hit SectorLine}
    (found : cache.findSector params registers request = some hit) :
    hit.line = cache.sectorLine params (sectorSet params request.vpn) hit.way := by
  unfold findSector at found
  exact (spec_of_firstHit found).2.1

/-- The lines that are read for a lookup are stored lines. -/
theorem Intact.read
    (intact : cache.Intact code) (params : Params) (registers : Registers)
    (waiting : WaitingLookup) : (Cache.read params registers waiting cache).Coded code where
  middle := fun hit found => by
    rw [line_of_findMiddle found]
    exact getD_of_forall intact.middles (PointerLine.coded_default code) _
  sector := fun hit found => by
    rw [line_of_findSector found]
    exact getD_of_forall intact.sectors (SectorLine.coded_default code) _

theorem Intact.readStage
    (intact : cache.Intact code) (params : Params) (registers : Registers) :
    (readStage params registers cache).Intact code := by
  unfold Cache.readStage
  split
  · rename_i waiting _ _
    have coded := intact.read params registers waiting
    refine { intact with reading := ?_ }
    intro read found
    cases found
    exact coded
  · exact intact

theorem Intact.tick
    (intact : cache.Intact code) (params : Params) (registers : Registers) :
    (tick params registers cache).state.Intact code := by
  refine Outcome.andThen_state_induction (intact.respondStage params registers) ?_
  intro _ responded
  refine Outcome.andThen_state_induction (responded.checkStage params) ?_
  intro _ checked
  exact { checked.readStage params registers with }

/-- A step of lines that match their codes clears no set. -/
theorem Intact.tick_storages
    (intact : cache.Intact code) (params : Params) (registers : Registers) :
    SameStorages cache (Cache.tick params registers cache).state := by
  cases next : nextChecked? params registers cache with
  | none => exact tick_of_unchecked next
  | some read =>
      refine (tick_of_checked next).same_of_coded ?_
      unfold nextChecked? at next
      dsimp only at next
      split at next
      case isFalse => cases next
      rw [intact.uses]
      exact (intact.respondStage params registers).reading read (dueForCheck_spec next).1

/-! ## Refills and fences -/

private theorem Intact.store
    (intact : cache.Intact code) (params : Params) (registers : Registers) (refill : Refill) :
    (Cache.store params registers refill cache).state.Intact code := by
  unfold Cache.store
  split
  · split
    · exact { intact with }
    · split
      · exact { intact with }
      · refine { intact with middles := ?_ }
        intro line member
        rcases Array.mem_or_eq_of_mem_setIfInBounds member with old | new
        · exact intact.middles line old
        · rw [new, ← intact.uses]
          rfl
  · split
    · refine { intact with sectors := ?_ }
      intro line member
      rcases Array.mem_or_eq_of_mem_setIfInBounds member with old | new
      · exact intact.sectors line old
      · rw [new, ← intact.uses]
        rfl
    · exact intact

/-- To mark a lookup leaves the lines that were read for it alone. -/
private theorem Intact.markLookups
    (intact : cache.Intact code) (refill : Refill) : (markLookups refill cache).Intact code := by
  refine { intact with reading := ?_, checked := ?_, answer := ?_ }
  · intro read found
    obtain ⟨before, held, rfl⟩ := Option.map_eq_some_iff.1 found
    exact { intact.reading before held with }
  · intro checked found
    obtain ⟨before, held, rfl⟩ := Option.map_eq_some_iff.1 found
    exact { intact.checked before held with }
  · intro answer found
    obtain ⟨before, held, rfl⟩ := Option.map_eq_some_iff.1 found
    have uncorrupted := intact.answer before held
    unfold markAnswer
    split
    · exact uncorrupted
    · exact uncorrupted

theorem Intact.refill
    (intact : cache.Intact code) (params : Params) (registers : Registers) (refill : Refill) :
    (Cache.refill params registers refill cache).state.Intact code := by
  unfold Cache.refill
  split
  · exact { intact with }
  · dsimp only
    split
    · exact { intact with }
    · have before : Intact code { cache with refilled := true } := { intact with }
      refine Outcome.andThen_state_induction (before.store params registers refill) ?_
      intro _ stored
      exact stored.markLookups refill

theorem Intact.flush (intact : cache.Intact code) : cache.flush.Intact code := by
  refine { intact with reading := ?_, checked := ?_, answer := ?_ }
  all_goals
    intro _ found
    cases found

/-- To invalidate a line changes neither its words nor its code. -/
theorem Intact.fence
    (intact : cache.Intact code) (params : Params) (registers : Registers) (fence : Fence) :
    (Cache.fence params registers fence cache).state.Intact code := by
  refine { intact.flush with middles := ?_, sectors := ?_ }
  · intro line member
    obtain ⟨before, stored, rfl⟩ := Array.mem_map.1 member
    have coded := intact.middles before stored
    split
    · exact coded
    · exact coded
  · intro line member
    obtain ⟨before, stored, rfl⟩ := Array.mem_map.1 member
    have coded := intact.sectors before stored
    split
    · exact coded
    · exact coded

/-! ## Histories -/

theorem Intact.perform
    {history : History} (intact : history.cache.Intact code) (params : Params) {move : Move}
    (uncorrupted : move.corrupts = false) :
    (history.perform params move).state.cache.Intact code := by
  cases move with
  | send lookup =>
      change (Cache.send params lookup history.cache).2.state.Intact code
      unfold Cache.send
      split
      · exact { intact with }
      · split
        · exact { intact with }
        · exact intact
  | tick => exact intact.tick params history.registers
  | pop =>
      change (Cache.pop params history.cache).state.Intact code
      unfold Cache.pop
      split
      · refine { intact with answer := ?_ }
        intro _ gone
        cases gone
      · exact intact
  | refill refill =>
      rw [cache_perform_refill]
      exact intact.refill params history.registers refill
  | fence fence => exact intact.fence params history.registers fence
  | flush => exact intact.flush
  | install registers => exact intact
  | corrupt level set way => cases uncorrupted

/-- At every point of a history in which no line is corrupted from outside, every stored
middle line and sector and every line that was read for a lookup matches its code, no lookup
has reported a corrupted line, and the next step clears no set. -/
theorem intact_of_run
    (created : Cache.create params = .ok cache) (registers : Registers) {moves : List Move}
    (uncorrupted : ∀ move ∈ moves, move.corrupts = false) :
    let after := (History.run params moves ⟨cache, registers, [], []⟩).state.cache
    after.Intact cache.code ∧
      ∀ registers, SameStorages after (Cache.tick params registers after).state := by
  intro after
  let Kept (history : History) : Prop := history.cache.Intact cache.code
  have start : Kept ⟨cache, registers, [], []⟩ := intact_of_create created
  have step (move : Move) (member : move ∈ moves) (current : History) (before : Kept current) :
      Kept (current.perform params move).state :=
    before.perform params (uncorrupted move member)
  have kept : Kept (History.run params moves ⟨cache, registers, [], []⟩).state :=
    Outcome.forEach_state_induction step start
  exact ⟨kept, kept.tick_storages params⟩

/-- A fence has invalidated a sector, and a lookup has been checked that hits a pointer. -/
theorem intact_of_small_run :
    let block : Block := Vector.replicate 8 0x1dccf
    let moves : List Move :=
      [.refill { level := leafLevel, request := { vpn := 5 }, selected := ⟨0x1dccf⟩, block },
        .fence {}, .tick,
        .refill { level := 1, request := { vpn := 5 }, selected := ⟨0x801⟩ }, .tick,
        .send { request := { vpn := 6 } }, .tick, .tick]
    ∃ cache, Cache.create .small = .ok cache ∧ (∀ move ∈ moves, move.corrupts = false) ∧
      let after := (History.run .small moves ⟨cache, {}, [], []⟩).state.cache
      after.checked.map (fun checked => (checked.middle.isSome, checked.corrupted)) =
          some (true, false) ∧
        after.Intact cache.code ∧
        ∀ registers, SameStorages after (Cache.tick .small registers after).state := by
  intro block moves
  have created : Cache.create .small = .ok _ := rfl
  have uncorrupted : ∀ move ∈ moves, move.corrupts = false := by
    simp [moves, Move.corrupts]
  exact ⟨_, created, uncorrupted, by decide +kernel, intact_of_run created {} uncorrupted⟩

end Cache

end PageWalk
