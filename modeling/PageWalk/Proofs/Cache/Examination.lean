import PageWalk.Proofs.Cache.Sets
import PageWalk.Proofs.Cache.Stages

/-!
# What the check of a lookup does

The check looks at the lines that were read for a lookup, not at the storages as they are
by then. It drops a line that does not match its code and invalidates the set of the lookup;
all other lines stay as they are.
-/

namespace PageWalk

/-! ## Lines and their codes -/

/-- The code of a line is the code of its words. -/
def PointerLine.Coded (code : LineCode) (line : PointerLine) : Prop :=
  line.code = code.encode line.words

/-- The code of a line is the code of its words. -/
def SectorLine.Coded (code : LineCode) (line : SectorLine) : Prop :=
  line.code = code.encode line.words

theorem LineCode.hasError_eq_false_iff
    (code : LineCode) (words : List Word) (stored : UInt8) :
    code.hasError words stored = false ↔ stored = code.encode words := by
  unfold hasError
  rw [bne_eq_false_iff_eq]
  exact eq_comm

namespace ReadLookup

/-- The middle line that was read for a lookup does not match its code. -/
def middleCorrupted (code : LineCode) (read : ReadLookup) : Bool :=
  read.middle.any fun hit => code.hasError hit.line.words hit.line.code

/-- The sector that was read for a lookup does not match its code. -/
def sectorCorrupted (code : LineCode) (read : ReadLookup) : Bool :=
  read.sector.any fun hit => code.hasError hit.line.words hit.line.code

/-- What was read for a lookup, with a middle line and a sector only if they match their
codes. -/
def sound (code : LineCode) (read : ReadLookup) : ReadLookup :=
  { read with
    middle := read.middle.filter fun hit => !code.hasError hit.line.words hit.line.code
    sector := read.sector.filter fun hit => !code.hasError hit.line.words hit.line.code }

/-- A lookup as the check leaves it. -/
def examine (code : LineCode) (read : ReadLookup) : CheckedLookup where
  lookup := read.lookup
  bypass := read.bypass
  root := read.root.map (·.line)
  middle := (read.sound code).middle.map (·.line)
  sector := (read.sound code).sector.map (·.line)
  superpage := read.superpage.map (·.line)
  corrupted := read.middleCorrupted code || read.sectorCorrupted code

variable {code : LineCode} {read : ReadLookup}

theorem middle_of_sound
    {hit : Hit PointerLine} (passed : (read.sound code).middle = some hit) :
    read.middle = some hit ∧ hit.line.Coded code := by
  obtain ⟨found, matching⟩ := Option.filter_eq_some_iff.1 passed
  rw [Bool.not_eq_true', LineCode.hasError_eq_false_iff] at matching
  exact ⟨found, matching⟩

theorem sector_of_sound
    {hit : Hit SectorLine} (passed : (read.sound code).sector = some hit) :
    read.sector = some hit ∧ hit.line.Coded code := by
  obtain ⟨found, matching⟩ := Option.filter_eq_some_iff.1 passed
  rw [Bool.not_eq_true', LineCode.hasError_eq_false_iff] at matching
  exact ⟨found, matching⟩

/-- The middle line and the sector that were read for a lookup match their codes. -/
structure Coded (code : LineCode) (read : ReadLookup) : Prop where
  middle : ∀ hit, read.middle = some hit → hit.line.Coded code
  sector : ∀ hit, read.sector = some hit → hit.line.Coded code

theorem Coded.uncorrupted (coded : read.Coded code) :
    read.middleCorrupted code = false ∧ read.sectorCorrupted code = false := by
  constructor
  · refine Bool.eq_false_iff.2 fun corrupted => ?_
    obtain ⟨hit, found, error⟩ := (Option.any_eq_true _ _).1 corrupted
    rw [(LineCode.hasError_eq_false_iff _ _ _).2 (coded.middle hit found)] at error
    cases error
  · refine Bool.eq_false_iff.2 fun corrupted => ?_
    obtain ⟨hit, found, error⟩ := (Option.any_eq_true _ _).1 corrupted
    rw [(LineCode.hasError_eq_false_iff _ _ _).2 (coded.sector hit found)] at error
    cases error

theorem coded_sound (code : LineCode) (read : ReadLookup) : (read.sound code).Coded code :=
  ⟨fun _ passed => (middle_of_sound passed).2, fun _ passed => (sector_of_sound passed).2⟩

/-- Without the corrupted lines the check leaves the same lookup, as one that met none. -/
theorem examine_sound (code : LineCode) (read : ReadLookup) :
    (read.sound code).examine code = { read.examine code with corrupted := false } := by
  have again : (read.sound code).sound code = read.sound code := by
    simp only [sound, Option.filter_filter, Bool.and_self]
  obtain ⟨middle, sector⟩ := (coded_sound code read).uncorrupted
  unfold examine
  rw [again, middle, sector]
  rfl

theorem middle_sound_of_corrupted (corrupted : read.middleCorrupted code = true) :
    (read.sound code).middle = none := by
  obtain ⟨hit, found, error⟩ := (Option.any_eq_true _ _).1 corrupted
  simp [sound, found, error, Option.filter_some]

theorem sector_sound_of_corrupted (corrupted : read.sectorCorrupted code = true) :
    (read.sound code).sector = none := by
  obtain ⟨hit, found, error⟩ := (Option.any_eq_true _ _).1 corrupted
  simp [sound, found, error, Option.filter_some]

end ReadLookup

namespace Cache

/-! ## Sets of lines -/

private theorem getElem?_foldl_modify
    {Line : Type} {change : Line → Line} (again : ∀ line, change (change line) = change line)
    (positions : List Nat) (lines : Array Line) (tested : Nat) :
    (positions.foldl (fun lines position => lines.modify position change) lines)[tested]? =
      if tested ∈ positions then lines[tested]?.map change else lines[tested]? := by
  induction positions generalizing lines with
  | nil => rfl
  | cons position positions inductionHypothesis =>
      rw [List.foldl_cons, inductionHypothesis, Array.getElem?_modify]
      by_cases here : position = tested
      · have twice : change ∘ change = change := funext again
        simp [here, twice]
      · simp [here, Ne.symm here]

/-- The lines of a cleared set are invalidated, all others stay as they are. -/
theorem middles_clearMiddleSet (params : Params) (set : UInt32) (cache : Cache) (position : Nat) :
    (clearMiddleSet params set cache).middles[position]? =
      if position ∈ setPositions params.middleWays set then
        cache.middles[position]?.map PointerLine.invalidate
      else
        cache.middles[position]? := by
  have again (line : PointerLine) : line.invalidate.invalidate = line.invalidate := rfl
  rw [← getElem?_foldl_modify again, setPositions, List.foldl_map]
  rfl

theorem sectors_clearSectorSet (params : Params) (set : UInt32) (cache : Cache) (position : Nat) :
    (clearSectorSet params set cache).sectors[position]? =
      if position ∈ setPositions params.sectorWays set then
        cache.sectors[position]?.map SectorLine.invalidate
      else
        cache.sectors[position]? := by
  have again (line : SectorLine) : line.invalidate.invalidate = line.invalidate := rfl
  rw [← getElem?_foldl_modify again, setPositions, List.foldl_map]
  rfl

/-! ## The check -/

/-- What the check of a lookup does to the storages and to the count of cleared sets. -/
structure Examined (params : Params) (read : ReadLookup) (cache after : Cache) : Prop where
  code : after.code = cache.code
  roots : after.roots = cache.roots
  superpages : after.superpages = cache.superpages
  middles : ∀ position, after.middles[position]? =
    if read.middleCorrupted cache.code = true ∧
        position ∈ setPositions params.middleWays (middleSet params read.lookup.request.vpn) then
      cache.middles[position]?.map PointerLine.invalidate
    else
      cache.middles[position]?
  sectors : ∀ position, after.sectors[position]? =
    if read.sectorCorrupted cache.code = true ∧
        position ∈ setPositions params.sectorWays (sectorSet params read.lookup.request.vpn) then
      cache.sectors[position]?.map SectorLine.invalidate
    else
      cache.sectors[position]?
  counted : after.counters.corruptedSets =
    cache.counters.corruptedSets + (read.middleCorrupted cache.code).toNat +
      (read.sectorCorrupted cache.code).toNat

private theorem checkMiddle_spec
    (params : Params) (request : Request) (hit : Option (Hit PointerLine)) (cache : Cache) :
    let error (hit : Hit PointerLine) : Bool :=
      cache.code.hasError hit.line.words hit.line.code
    let result := checkMiddle params request hit cache
    result.line = (hit.filter fun hit => !error hit).map (·.line) ∧
      result.corrupted = hit.any error ∧
      ∃ policy, result.outcome.state =
        { (if hit.any error then
            countCorrupted (clearMiddleSet params (middleSet params request.vpn) cache)
          else cache) with middlePolicy := policy } := by
  unfold checkMiddle
  cases hit with
  | none => exact ⟨rfl, rfl, cache.middlePolicy, rfl⟩
  | some hit =>
      cases error : cache.code.hasError hit.line.words hit.line.code with
      | true =>
          simp only [error, Option.filter_some, Option.any_some]
          exact ⟨rfl, rfl, cache.middlePolicy, rfl⟩
      | false =>
          simp only [error, Option.filter_some, Option.any_some]
          exact ⟨rfl, rfl, _, rfl⟩

private theorem checkSector_spec
    (params : Params) (request : Request) (hit : Option (Hit SectorLine)) (cache : Cache) :
    let error (hit : Hit SectorLine) : Bool :=
      cache.code.hasError hit.line.words hit.line.code
    let result := checkSector params request hit cache
    result.line = (hit.filter fun hit => !error hit).map (·.line) ∧
      result.corrupted = hit.any error ∧
      ∃ policy, result.outcome.state =
        { (if hit.any error then
            countCorrupted (clearSectorSet params (sectorSet params request.vpn) cache)
          else cache) with sectorPolicy := policy } := by
  unfold checkSector
  cases hit with
  | none => exact ⟨rfl, rfl, cache.sectorPolicy, rfl⟩
  | some hit =>
      cases error : cache.code.hasError hit.line.words hit.line.code with
      | true =>
          simp only [error, Option.filter_some, Option.any_some]
          exact ⟨rfl, rfl, cache.sectorPolicy, rfl⟩
      | false =>
          simp only [error, Option.filter_some, Option.any_some]
          exact ⟨rfl, rfl, _, rfl⟩

private theorem touchRoot_eq (hit : Option (Hit PointerLine)) (cache : Cache) :
    ∃ policy, touchRoot hit cache = { cache with rootPolicy := policy } := by
  cases hit with
  | none => exact ⟨cache.rootPolicy, rfl⟩
  | some hit => exact ⟨_, rfl⟩

private theorem touchSuperpage_eq (hit : Option (Hit SuperpageLine)) (cache : Cache) :
    ∃ policy, touchSuperpage hit cache = { cache with superpagePolicy := policy } := by
  cases hit with
  | none => exact ⟨cache.superpagePolicy, rfl⟩
  | some hit => exact ⟨_, rfl⟩

/-- The check leaves the lines that match their codes, and clears the sets of those that do
not. -/
theorem examined_afterCheck (params : Params) (read : ReadLookup) (cache : Cache) :
    checkedOf params read cache = read.examine cache.code ∧
      Examined params read cache (afterCheck params read cache) := by
  unfold checkedOf afterCheck
  dsimp only
  obtain ⟨rootPolicy, root⟩ := touchRoot_eq read.root cache
  rw [root]
  obtain ⟨middleLine, middleCorrupted, middlePolicy, middle⟩ :=
    checkMiddle_spec params read.lookup.request read.middle
      { cache with rootPolicy := rootPolicy }
  generalize checkMiddle params read.lookup.request read.middle
    { cache with rootPolicy := rootPolicy } = middleCheck at *
  have code : middleCheck.outcome.state.code = cache.code := by
    rw [middle]
    split <;> rfl
  obtain ⟨sectorLine, sectorCorrupted, sectorPolicy, sector⟩ :=
    checkSector_spec params read.lookup.request read.sector middleCheck.outcome.state
  generalize checkSector params read.lookup.request read.sector
    middleCheck.outcome.state = sectorCheck at *
  obtain ⟨superpagePolicy, superpage⟩ := touchSuperpage_eq read.superpage sectorCheck.outcome.state
  rw [code] at sectorLine sectorCorrupted sector
  rw [superpage, sector, middle, middleLine, middleCorrupted, sectorLine, sectorCorrupted]
  refine ⟨rfl, ?_⟩
  have middles :
      read.middle.any (fun hit => cache.code.hasError hit.line.words hit.line.code) =
        read.middleCorrupted cache.code := rfl
  have sectors :
      read.sector.any (fun hit => cache.code.hasError hit.line.words hit.line.code) =
        read.sectorCorrupted cache.code := rfl
  rw [middles, sectors]
  clear middles sectors middle sector
  constructor
  case middles =>
    intro position
    cases read.middleCorrupted cache.code <;> cases read.sectorCorrupted cache.code <;>
      simp [countCorrupted, clearSectorSet, middles_clearMiddleSet]
  case sectors =>
    intro position
    cases read.middleCorrupted cache.code <;> cases read.sectorCorrupted cache.code <;>
      simp [countCorrupted, clearMiddleSet, sectors_clearSectorSet]
  all_goals
    cases read.middleCorrupted cache.code <;> cases read.sectorCorrupted cache.code <;> rfl

/-! ## One step -/

/-- The storages, the code and the count of cleared sets are what they were. -/
structure SameStorages (cache after : Cache) : Prop where
  code : after.code = cache.code
  roots : after.roots = cache.roots
  middles : after.middles = cache.middles
  sectors : after.sectors = cache.sectors
  superpages : after.superpages = cache.superpages
  counted : after.counters.corruptedSets = cache.counters.corruptedSets

theorem SameStorages.refl (cache : Cache) : SameStorages cache cache :=
  ⟨rfl, rfl, rfl, rfl, rfl, rfl⟩

theorem SameStorages.trans
    {cache middle after : Cache} (left : SameStorages cache middle)
    (right : SameStorages middle after) : SameStorages cache after where
  code := right.code.trans left.code
  roots := right.roots.trans left.roots
  middles := right.middles.trans left.middles
  sectors := right.sectors.trans left.sectors
  superpages := right.superpages.trans left.superpages
  counted := right.counted.trans left.counted

theorem sameStorages_respondStage (params : Params) (registers : Registers) (cache : Cache) :
    SameStorages cache (respondStage params registers cache).state := by
  unfold respondStage
  split
  · unfold respond
    split
    · exact .refl cache
    · exact { SameStorages.refl cache with }
  · exact .refl cache

theorem sameStorages_readStage (params : Params) (registers : Registers) (cache : Cache) :
    SameStorages cache (readStage params registers cache) := by
  unfold readStage
  split
  · exact { SameStorages.refl cache with }
  · exact .refl cache

theorem Examined.of_same
    {params : Params} {read : ReadLookup} {cache before middle after : Cache}
    (examined : Examined params read before middle) (first : SameStorages cache before)
    (last : SameStorages middle after) : Examined params read cache after where
  code := last.code.trans (examined.code.trans first.code)
  roots := last.roots.trans (examined.roots.trans first.roots)
  superpages := last.superpages.trans (examined.superpages.trans first.superpages)
  middles := by
    rw [last.middles, ← first.middles, ← first.code]
    exact examined.middles
  sectors := by
    rw [last.sectors, ← first.sectors, ← first.code]
    exact examined.sectors
  counted := by
    rw [last.counted, ← first.counted, ← first.code]
    exact examined.counted

/-- The lookup that the check stage takes. -/
def dueForCheck (cache : Cache) : Option ReadLookup :=
  if cache.checked.isNone then cache.reading else none

theorem dueForCheck_spec
    {cache : Cache} {read : ReadLookup} (due : cache.dueForCheck = some read) :
    cache.reading = some read ∧ cache.checked = none := by
  unfold dueForCheck at due
  split at due
  case isFalse => cases due
  rename_i free
  exact ⟨due, Option.isNone_iff_eq_none.1 free⟩

/-- The check stage examines the lookup that is due. -/
theorem checkStage_of_due
    (params : Params) {cache : Cache} {read : ReadLookup} (due : cache.dueForCheck = some read) :
    let after := (checkStage params cache).state
    Examined params read cache after ∧ after.waiting = cache.waiting ∧ after.reading = none ∧
      after.checked = some (read.examine cache.code) ∧ after.answer = cache.answer := by
  obtain ⟨found, free⟩ := dueForCheck_spec due
  let taken : Cache := { cache with reading := none }
  have same : (checkStage params cache).state = (check params read taken).state := by
    unfold checkStage
    split
    · rename_i read _ here
      rw [found] at here
      cases here
      rfl
    · rename_i notDue
      exact (notDue read free found).elim
  obtain ⟨checked, examined⟩ := examined_afterCheck params read taken
  have stages := afterCheck_stages params read taken
  dsimp only
  rw [same, (check_spec params read taken).1, checked]
  exact ⟨{ examined with }, stages.waiting, stages.reading, rfl, stages.answer⟩

theorem checkStage_of_not_due
    {params : Params} {cache : Cache} (idle : cache.dueForCheck = none) :
    (checkStage params cache).state = cache := by
  unfold dueForCheck at idle
  unfold checkStage
  split
  · rename_i read free found
    rw [free, found] at idle
    cases idle
  · rfl

/-- The lookup that the next step checks. -/
def nextChecked? (params : Params) (registers : Registers) (cache : Cache) :
    Option ReadLookup :=
  let answered := respondStage params registers cache
  if answered.fault.isNone then answered.state.dueForCheck else none

/-- A step invalidates lines of the lookup that it checks, and no others. -/
theorem tick_of_checked
    {params : Params} {registers : Registers} {cache : Cache} {read : ReadLookup}
    (found : nextChecked? params registers cache = some read) :
    Examined params read cache (tick params registers cache).state := by
  have first := sameStorages_respondStage params registers cache
  unfold nextChecked? at found
  dsimp only at found
  split at found
  case isFalse => cases found
  rename_i running
  obtain ⟨examined, _⟩ := checkStage_of_due params found
  have second := (checkStage_lookups params (respondStage params registers cache).state).2
  unfold tick
  rw [Outcome.andThen_state_of_running _ (Option.isNone_iff_eq_none.1 running),
    Outcome.andThen_state_of_running _ second.running]
  exact examined.of_same first { sameStorages_readStage params registers _ with }

/-- A step that checks no lookup leaves the storages as they are. -/
theorem tick_of_unchecked
    {params : Params} {registers : Registers} {cache : Cache}
    (idle : nextChecked? params registers cache = none) :
    SameStorages cache (tick params registers cache).state := by
  have first := sameStorages_respondStage params registers cache
  unfold nextChecked? at idle
  unfold tick
  dsimp only at idle
  cases running : (respondStage params registers cache).fault with
  | some fault =>
      rw [Outcome.andThen_of_stopped _ running]
      exact first
  | none =>
      have second := (checkStage_lookups params (respondStage params registers cache).state).2
      rw [running] at idle
      rw [Outcome.andThen_state_of_running _ running,
        Outcome.andThen_state_of_running _ second.running, checkStage_of_not_due idle]
      have last := sameStorages_readStage params registers
        (respondStage params registers cache).state
      exact first.trans { last with }

end Cache

end PageWalk
