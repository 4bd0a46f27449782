import PageWalk.Cache.Invalidate
import PageWalk.Cache.Pipeline
import PageWalk.Cache.Refill
import PageWalk.Proofs.Outcome

/-!
# The lookups in the pipeline

Which lookups every operation of the cache leaves in the pipeline, and in which
order. A step moves them but loses none, and only a lookup that hits a sector and a
superpage can stop it.
-/

namespace PageWalk.Cache

/-! ## Stages -/

/-- The four stages hold what they held before. -/
structure SameStages (cache after : Cache) : Prop where
  waiting : after.waiting = cache.waiting
  reading : after.reading = cache.reading
  checked : after.checked = cache.checked
  answer : after.answer = cache.answer

theorem SameStages.refl (cache : Cache) : SameStages cache cache :=
  ⟨rfl, rfl, rfl, rfl⟩

theorem SameStages.trans
    {cache middle after : Cache} (left : SameStages cache middle)
    (right : SameStages middle after) : SameStages cache after where
  waiting := right.waiting.trans left.waiting
  reading := right.reading.trans left.reading
  checked := right.checked.trans left.checked
  answer := right.answer.trans left.answer

theorem SameStages.lookups
    {cache after : Cache} (same : SameStages cache after) : after.lookups = cache.lookups := by
  unfold Cache.lookups
  rw [same.waiting, same.reading, same.checked, same.answer]

/-! ## Checking -/

/-- What one part of the check of a lookup leaves: the cache as it is, with one access that
a policy has seen, or with one set of a coded storage cleared. -/
inductive CheckPart (params : Params) (cache : Cache) : Cache → Prop
  | missed : CheckPart params cache cache
  | root (way : UInt32) :
      CheckPart params cache { cache with rootPolicy := cache.rootPolicy.access 0 way }
  | middle (set way : UInt32) :
      CheckPart params cache { cache with middlePolicy := cache.middlePolicy.access set way }
  | sector (set way : UInt32) :
      CheckPart params cache { cache with sectorPolicy := cache.sectorPolicy.access set way }
  | superpage (way : UInt32) :
      CheckPart params cache
        { cache with superpagePolicy := cache.superpagePolicy.access 0 way }
  | middleCleared (set : UInt32) :
      CheckPart params cache (countCorrupted (clearMiddleSet params set cache))
  | sectorCleared (set : UInt32) :
      CheckPart params cache (countCorrupted (clearSectorSet params set cache))

theorem touchRoot_part (params : Params) (hit : Option (Hit PointerLine)) (cache : Cache) :
    CheckPart params cache (touchRoot hit cache) := by
  cases hit with
  | none => exact .missed
  | some hit => exact .root _

theorem touchSuperpage_part
    (params : Params) (hit : Option (Hit SuperpageLine)) (cache : Cache) :
    CheckPart params cache (touchSuperpage hit cache) := by
  cases hit with
  | none => exact .missed
  | some hit => exact .superpage _

theorem checkMiddle_part
    (params : Params) (request : Request) (hit : Option (Hit PointerLine)) (cache : Cache) :
    CheckPart params cache (checkMiddle params request hit cache).outcome.state ∧
      (checkMiddle params request hit cache).outcome.Uneventful := by
  unfold checkMiddle
  dsimp only
  split
  · exact ⟨.missed, rfl, rfl⟩
  · split
    · exact ⟨.middleCleared _, rfl, rfl⟩
    · exact ⟨.middle _ _, rfl, rfl⟩

theorem checkSector_part
    (params : Params) (request : Request) (hit : Option (Hit SectorLine)) (cache : Cache) :
    CheckPart params cache (checkSector params request hit cache).outcome.state ∧
      (checkSector params request hit cache).outcome.Uneventful := by
  unfold checkSector
  dsimp only
  split
  · exact ⟨.missed, rfl, rfl⟩
  · split
    · exact ⟨.sectorCleared _, rfl, rfl⟩
    · exact ⟨.sector _ _, rfl, rfl⟩

/-- The cache between the reading and the checking of a lookup: the storages that the
check leaves. -/
def afterCheck (params : Params) (read : ReadLookup) (cache : Cache) : Cache :=
  let request := read.lookup.request
  let middle := checkMiddle params request read.middle (touchRoot read.root cache)
  let sector := checkSector params request read.sector middle.outcome.state
  touchSuperpage read.superpage sector.outcome.state

/-- The lookup that the check of a read lookup leaves. -/
def checkedOf (params : Params) (read : ReadLookup) (cache : Cache) : CheckedLookup :=
  let request := read.lookup.request
  let middle := checkMiddle params request read.middle (touchRoot read.root cache)
  let sector := checkSector params request read.sector middle.outcome.state
  { lookup := read.lookup
    bypass := read.bypass
    root := read.root.map (·.line)
    middle := middle.line
    sector := sector.line
    superpage := read.superpage.map (·.line)
    corrupted := middle.corrupted || sector.corrupted }

/-- What every part of the check keeps the whole check keeps. -/
theorem afterCheck_induction
    {params : Params} (read : ReadLookup) {cache : Cache} {holds : Cache → Prop}
    (part : ∀ current after, holds current → CheckPart params current after → holds after)
    (start : holds cache) : holds (afterCheck params read cache) := by
  have root := part _ _ start (touchRoot_part params read.root _)
  have middle := part _ _ root (checkMiddle_part params read.lookup.request read.middle _).1
  have sector := part _ _ middle (checkSector_part params read.lookup.request read.sector _).1
  exact part _ _ sector (touchSuperpage_part params read.superpage _)

theorem CheckPart.stages
    {params : Params} {cache after : Cache} (part : CheckPart params cache after) :
    SameStages cache after := by
  cases part with
  | missed => exact .refl cache
  | root | middle | sector | superpage | middleCleared | sectorCleared =>
      exact { SameStages.refl cache with }

theorem afterCheck_stages (params : Params) (read : ReadLookup) (cache : Cache) :
    SameStages cache (afterCheck params read cache) :=
  afterCheck_induction read (fun _ _ same part => same.trans part.stages) (.refl cache)

theorem check_spec (params : Params) (read : ReadLookup) (cache : Cache) :
    (check params read cache).state =
        { afterCheck params read cache with
          checked := some (checkedOf params read cache)
          counters := (checkedOf params read cache).count (afterCheck params read cache).counters } ∧
      (check params read cache).Uneventful := by
  refine ⟨rfl, rfl, ?_⟩
  have middle := (checkMiddle_part params read.lookup.request read.middle
    (touchRoot read.root cache)).2.keeps
  have sector := (checkSector_part params read.lookup.request read.sector
    (checkMiddle params read.lookup.request read.middle
      (touchRoot read.root cache)).outcome.state).2.keeps
  unfold Outcome.discarded at middle sector ⊢
  simp only [check, List.filterMap_append, middle, sector]
  rfl

/-! ## One step -/

theorem respondStage_lookups (params : Params) (registers : Registers) (cache : Cache) :
    (respondStage params registers cache).state.lookups = cache.lookups ∧
      (respondStage params registers cache).discarded = [] ∧
      ∀ fault, (respondStage params registers cache).fault = some fault →
        ∃ request, fault = .misuse params.cacheName (.doubleHit request) := by
  unfold respondStage
  split
  · rename_i checked answerFree found
    unfold respond
    split
    · refine ⟨rfl, rfl, ?_⟩
      intro fault stopped
      cases stopped
      exact ⟨_, rfl⟩
    · refine ⟨?_, rfl, nofun⟩
      simp [lookups, answerFree, found, answerOf]
  · exact ⟨rfl, rfl, nofun⟩

theorem checkStage_lookups (params : Params) (cache : Cache) :
    (checkStage params cache).state.lookups = cache.lookups ∧
      (checkStage params cache).Uneventful := by
  unfold checkStage
  split
  · rename_i read free found
    obtain ⟨state, uneventful⟩ := check_spec params read { cache with reading := none }
    have stages := afterCheck_stages params read { cache with reading := none }
    refine ⟨?_, uneventful⟩
    rw [state]
    unfold lookups
    dsimp only
    rw [stages.waiting, stages.reading, stages.answer, free, found]
    simp [checkedOf]
  · exact ⟨rfl, rfl, rfl⟩

theorem readStage_lookups (params : Params) (registers : Registers) (cache : Cache) :
    (readStage params registers cache).lookups = cache.lookups := by
  unfold readStage
  split
  · rename_i waiting free found
    simp [lookups, free, found, read]
  · rfl

/-- A step moves the lookups on their way, also when it stops. -/
theorem tick_lookups (params : Params) (registers : Registers) (cache : Cache) :
    (tick params registers cache).state.lookups = cache.lookups := by
  let kept (after : Cache) : Prop := after.lookups = cache.lookups
  have first : kept (respondStage params registers cache).state :=
    (respondStage_lookups params registers cache).1
  refine (Outcome.andThen_state_induction first ?_ : kept (tick params registers cache).state)
  intro _ reached
  have second := checkStage_lookups params (respondStage params registers cache).state
  rw [Outcome.andThen_state_of_running _ second.2.running]
  exact (readStage_lookups params registers _).trans (second.1.trans reached)

theorem tick_discarded (params : Params) (registers : Registers) (cache : Cache) :
    (tick params registers cache).discarded = [] := by
  unfold tick
  obtain ⟨_, discarded, _⟩ := respondStage_lookups params registers cache
  have second := (checkStage_lookups params (respondStage params registers cache).state).2
  cases stopped : (respondStage params registers cache).fault with
  | some fault =>
      rw [Outcome.andThen_of_stopped _ stopped]
      exact discarded
  | none =>
      rw [Outcome.andThen_discarded_of_running _ stopped, discarded]
      exact (second.andThen ⟨rfl, rfl⟩).keeps

/-- Only a lookup that hits twice stops a step. -/
theorem tick_fault
    (params : Params) (registers : Registers) {cache : Cache} {fault : Fault}
    (stopped : (tick params registers cache).fault = some fault) :
    ∃ request, fault = .misuse params.cacheName (.doubleHit request) := by
  unfold tick at stopped
  obtain ⟨_, _, cause⟩ := respondStage_lookups params registers cache
  have second := (checkStage_lookups params (respondStage params registers cache).state).2
  cases first : (respondStage params registers cache).fault with
  | some earlier =>
      rw [Outcome.andThen_of_stopped _ first, first] at stopped
      cases stopped
      exact cause _ first
  | none =>
      rw [Outcome.andThen_fault_of_running _ first,
        Outcome.andThen_fault_of_running _ second.running] at stopped
      cases stopped

/-! ## Accepting a lookup and taking the answer -/

/-- A cache either takes a lookup in behind all others or stays as it is. -/
theorem send_cases (params : Params) (lookup : Lookup) (cache : Cache) :
    (send params lookup cache).2.Uneventful ∧
      (((send params lookup cache).1 = true ∧ cache.waiting = none ∧
          (send params lookup cache).2.state =
            { cache with waiting := some { lookup := lookup } }) ∨
        ((send params lookup cache).1 = false ∧
          ∃ counters, (send params lookup cache).2.state =
            { cache with counters := counters })) := by
  unfold send
  split
  · rename_i ready
    simp only [Cache.ready, Bool.and_eq_true, Option.isNone_iff_eq_none] at ready
    exact ⟨⟨rfl, rfl⟩, Or.inl ⟨rfl, ready.2, rfl⟩⟩
  · split
    · exact ⟨⟨rfl, rfl⟩, Or.inr ⟨rfl, _, rfl⟩⟩
    · exact ⟨⟨rfl, rfl⟩, Or.inr ⟨rfl, cache.counters, rfl⟩⟩

theorem lookups_of_accepted
    {cache : Cache} (free : cache.waiting = none) (lookup : Lookup) :
    Cache.lookups { cache with waiting := some { lookup := lookup } } =
      cache.lookups ++ [lookup] := by
  simp [lookups, free]

theorem pop_spec
    (params : Params) {cache : Cache} {answer : CacheAnswer}
    (found : cache.answer = some answer) :
    cache.lookups = answer.lookup :: (pop params cache).state.lookups ∧
      (pop params cache).state = cache.withoutAnswer answer ∧
      (pop params cache).Uneventful := by
  unfold pop
  simp only [found]
  refine ⟨?_, trivial, rfl, rfl⟩
  simp [lookups, withoutAnswer, found]

/-! ## Refills, flushes and fences -/

theorem lookup_markAnswer (refill : Refill) (answer : CacheAnswer) :
    (markAnswer refill answer).lookup = answer.lookup := by
  unfold markAnswer
  split <;> rfl

theorem markLookups_lookups (refill : Refill) (cache : Cache) :
    (markLookups refill cache).lookups = cache.lookups := by
  have marked :
      (fun stage : CacheAnswer => stage.lookup) ∘ markAnswer refill = fun stage => stage.lookup :=
    funext (lookup_markAnswer refill)
  simp only [lookups, markLookups, Option.map_map, marked]
  rfl

theorem store_spec
    (params : Params) (registers : Registers) {refill : Refill} (cache : Cache)
    (level : refill.level ≤ leafLevel) :
    SameStages cache (store params registers refill cache).state ∧
      (store params registers refill cache).Uneventful := by
  unfold store
  split
  · split
    · exact ⟨{ SameStages.refl cache with }, rfl, rfl⟩
    · split
      · exact ⟨{ SameStages.refl cache with }, rfl, rfl⟩
      · exact ⟨{ SameStages.refl cache with }, rfl, rfl⟩
  · rename_i below
    have last : refill.level = leafLevel := by omega
    rw [if_pos last]
    exact ⟨{ SameStages.refl cache with }, rfl, rfl⟩

/-- A refill of one of the three levels marks lookups but moves none. -/
theorem refill_spec
    (params : Params) (registers : Registers) {refill : Refill} (cache : Cache)
    (level : refill.level ≤ leafLevel) :
    (Cache.refill params registers refill cache).state.lookups = cache.lookups ∧
      (Cache.refill params registers refill cache).Uneventful := by
  unfold Cache.refill
  split
  · exact ⟨rfl, rfl, rfl⟩
  · dsimp only
    split
    · exact ⟨rfl, rfl, rfl⟩
    · obtain ⟨stages, uneventful⟩ :=
        store_spec params registers { cache with refilled := true } level
      refine ⟨?_, uneventful.andThen ⟨rfl, rfl⟩⟩
      rw [Outcome.andThen_state_of_running _ uneventful.running]
      exact (markLookups_lookups refill _).trans stages.lookups

section Corruption

variable (params : Params) (level : Nat) (set way : UInt32) (cache : Cache)

/-- What corruption leaves: the cache as it was, or one line changed that keeps its tag. -/
theorem corrupt_cases :
    (corrupt params level set way cache).state = cache ∨
      (∃ change : PointerLine → PointerLine, (∀ line, (change line).tag = line.tag) ∧
        (corrupt params level set way cache).state =
          { cache with
            middles := cache.middles.modify (middlePosition params set way) change }) ∨
      ∃ change : SectorLine → SectorLine, (∀ line, (change line).tag = line.tag) ∧
        (corrupt params level set way cache).state =
          { cache with
            sectors := cache.sectors.modify (sectorPosition params set way) change } := by
  unfold corrupt
  split
  · split
    · exact .inl rfl
    · exact .inr (.inl ⟨_, fun line => by rfl, rfl⟩)
  · split
    · split
      · exact .inl rfl
      · exact .inr (.inr ⟨_, fun line => by rfl, rfl⟩)
    · exact .inl rfl

/-- Corruption changes nothing but the storages whose lines have a code. -/
theorem corrupt_frame :
    ∃ middles sectors, (corrupt params level set way cache).state =
      { cache with middles := middles, sectors := sectors } := by
  rcases corrupt_cases params level set way cache with same | ⟨_, _, same⟩ | ⟨_, _, same⟩
  · exact ⟨cache.middles, cache.sectors, same⟩
  · exact ⟨_, cache.sectors, same⟩
  · exact ⟨cache.middles, _, same⟩

theorem corrupt_stages : SameStages cache (corrupt params level set way cache).state := by
  obtain ⟨middles, sectors, same⟩ := corrupt_frame params level set way cache
  rw [same]
  exact { SameStages.refl cache with }

theorem corrupt_discarded : (corrupt params level set way cache).discarded = [] := by
  unfold corrupt
  split
  · split
    · rfl
    · rfl
  · split
    · split
      · rfl
      · rfl
    · rfl

end Corruption

end PageWalk.Cache
