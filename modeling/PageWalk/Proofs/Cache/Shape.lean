import PageWalk.Proofs.Cache.Origins
import PageWalk.Proofs.Replacement

/-!
# The shape of the storages

The four storages as one family. Whatever is done to a cache, no storage grows or shrinks,
and its policy goes on naming its ways.
-/

namespace PageWalk

/-! ## The storages as a family -/

namespace Storage

/-- What a storage keeps. -/
@[reducible]
def Line : Storage → Type
  | .root => PointerLine
  | .middle => PointerLine
  | .sector => SectorLine
  | .superpage => SuperpageLine

def tag : (storage : Storage) → storage.Line → LineTag
  | .root => PointerLine.tag
  | .middle => PointerLine.tag
  | .sector => SectorLine.tag
  | .superpage => SuperpageLine.tag

def blank : (storage : Storage) → storage.Line
  | .root => {}
  | .middle => {}
  | .sector => {}
  | .superpage => {}

/-- How many lines a storage is made with, as a product of 32-bit sizes. -/
def size (params : Params) : Storage → UInt32
  | .root => params.rootSize
  | .middle => params.middleSets * params.middleWays
  | .sector => params.sectorSets * params.sectorWays
  | .superpage => params.superpageSize

/-- The sets of a storage. A fully associative storage is a single set. -/
def sets (params : Params) : Storage → UInt32
  | .root => 1
  | .middle => params.middleSets
  | .sector => params.sectorSets
  | .superpage => 1

def ways (params : Params) : Storage → UInt32
  | .root => params.rootSize
  | .middle => params.middleWays
  | .sector => params.sectorWays
  | .superpage => params.superpageSize

end Storage

namespace Cache

def linesOf (cache : Cache) : (storage : Storage) → Array storage.Line
  | .root => cache.roots
  | .middle => cache.middles
  | .sector => cache.sectors
  | .superpage => cache.superpages

def policyOf (cache : Cache) : Storage → ReplacementPolicy
  | .root => cache.rootPolicy
  | .middle => cache.middlePolicy
  | .sector => cache.sectorPolicy
  | .superpage => cache.superpagePolicy

/-- The storages keep their sizes, and their policies the numbers of their ways. -/
structure SameShape (cache after : Cache) : Prop where
  sizes : ∀ storage, (after.linesOf storage).size = (cache.linesOf storage).size
  fits : ∀ storage {ways : UInt32}, (cache.policyOf storage).Fits ways →
    (after.policyOf storage).Fits ways

namespace SameShape

variable {cache middle after : Cache}

theorem refl (cache : Cache) : SameShape cache cache :=
  ⟨fun _ => rfl, fun _ _ fits => fits⟩

theorem trans (left : SameShape cache middle) (right : SameShape middle after) :
    SameShape cache after where
  sizes storage := (right.sizes storage).trans (left.sizes storage)
  fits storage _ fits := right.fits storage (left.fits storage fits)

/-- The storages and the policies are the same ones. -/
theorem of_eq
    (lines : after.linesOf = cache.linesOf) (policies : after.policyOf = cache.policyOf) :
    SameShape cache after where
  sizes storage := by rw [lines]
  fits storage _ fits := by rwa [policies]

/-- A policy that has seen an access fits the ways that it fitted before. -/
theorem of_accesses
    (lines : after.linesOf = cache.linesOf)
    (policies : ∀ storage, after.policyOf storage = cache.policyOf storage ∨
      ∃ set way, after.policyOf storage = (cache.policyOf storage).access set way) :
    SameShape cache after where
  sizes storage := by rw [lines]
  fits storage ways fits := by
    rcases policies storage with same | ⟨set, way, accessed⟩
    · rwa [same]
    · rw [accessed]
      exact ReplacementPolicy.Fits.access fits set way

end SameShape

/-! ## Checking -/

private theorem size_foldl_modify
    {Line : Type} (update : Line → Line) (position : Nat → Nat) (ways : List Nat)
    (lines : Array Line) :
    (ways.foldl (fun lines way => lines.modify (position way) update) lines).size =
      lines.size := by
  induction ways generalizing lines with
  | nil => rfl
  | cons way ways inductionHypothesis =>
      exact (inductionHypothesis _).trans Array.size_modify

theorem CheckPart.sameShape
    {params : Params} {cache after : Cache} (part : CheckPart params cache after) :
    SameShape cache after := by
  cases part with
  | missed => exact .refl cache
  | root =>
      refine .of_accesses rfl fun storage => ?_
      cases storage with
      | root => exact .inr ⟨_, _, rfl⟩
      | middle | sector | superpage => exact .inl rfl
  | middle =>
      refine .of_accesses rfl fun storage => ?_
      cases storage with
      | middle => exact .inr ⟨_, _, rfl⟩
      | root | sector | superpage => exact .inl rfl
  | sector =>
      refine .of_accesses rfl fun storage => ?_
      cases storage with
      | sector => exact .inr ⟨_, _, rfl⟩
      | root | middle | superpage => exact .inl rfl
  | superpage =>
      refine .of_accesses rfl fun storage => ?_
      cases storage with
      | superpage => exact .inr ⟨_, _, rfl⟩
      | root | middle | sector => exact .inl rfl
  | middleCleared set =>
      refine ⟨fun storage => ?_, fun storage ways fits => by cases storage <;> exact fits⟩
      cases storage with
      | middle => exact size_foldl_modify _ _ _ _
      | root | sector | superpage => rfl
  | sectorCleared set =>
      refine ⟨fun storage => ?_, fun storage ways fits => by cases storage <;> exact fits⟩
      cases storage with
      | sector => exact size_foldl_modify _ _ _ _
      | root | middle | superpage => rfl

theorem sameShape_afterCheck (params : Params) (read : ReadLookup) (cache : Cache) :
    SameShape cache (afterCheck params read cache) :=
  afterCheck_induction read (fun _ _ same part => same.trans part.sameShape) (.refl cache)

/-! ## One step -/

private theorem sameShape_respondStage
    (params : Params) (registers : Registers) (cache : Cache) :
    SameShape cache (respondStage params registers cache).state := by
  unfold respondStage respond
  split
  · split
    · exact .refl cache
    · exact .of_eq rfl rfl
  · exact .refl cache

private theorem sameShape_checkStage (params : Params) (cache : Cache) :
    SameShape cache (checkStage params cache).state := by
  unfold checkStage
  split
  · rename_i read _ _
    have taken : SameShape cache { cache with reading := none } := .of_eq rfl rfl
    have checked := taken.trans (sameShape_afterCheck params read _)
    rw [(check_spec params read _).1]
    exact checked.trans (.of_eq rfl rfl)
  · exact .refl cache

private theorem sameShape_readStage (params : Params) (registers : Registers) (cache : Cache) :
    SameShape cache (readStage params registers cache) := by
  unfold readStage
  split
  · exact .of_eq rfl rfl
  · exact .refl cache

theorem sameShape_tick (params : Params) (registers : Registers) (cache : Cache) :
    SameShape cache (Cache.tick params registers cache).state := by
  unfold Cache.tick
  refine Outcome.andThen_state_induction (sameShape_respondStage params registers cache)
    fun _ responded => ?_
  refine Outcome.andThen_state_induction (responded.trans (sameShape_checkStage params _))
    fun _ checked => ?_
  exact (checked.trans (sameShape_readStage params registers _)).trans (.of_eq rfl rfl)

/-! ## Refills -/

/-- The set of a storage that a page selects. -/
def selectedSetOf (params : Params) (vpn : Word) : Storage → UInt32
  | .root => 0
  | .middle => middleSet params vpn
  | .sector => sectorSet params vpn
  | .superpage => 0

/-- Where a way of the set that a page selects is kept. -/
def positionOf (params : Params) (vpn : Word) : Storage → Nat → Nat
  | .root, way => way
  | .middle, way => middlePosition params (middleSet params vpn) (UInt32.ofNat way)
  | .sector, way => sectorPosition params (sectorSet params vpn) (UInt32.ofNat way)
  | .superpage, way => way

/-- Whether a way of the set that a page selects holds a valid line. -/
def validWay (params : Params) (vpn : Word) (cache : Cache) (storage : Storage) (way : Nat) :
    Bool :=
  (storage.tag
    ((cache.linesOf storage).getD (positionOf params vpn storage way) storage.blank)).valid

/-- The way of the set that a page selects which a refill takes, and the policy then. -/
def chosenWay (params : Params) (vpn : Word) (cache : Cache) (storage : Storage) :
    UInt32 × ReplacementPolicy :=
  (cache.policyOf storage).choose (selectedSetOf params vpn storage)
    (validWay params vpn cache storage)

def countRefill (counters : CacheCounters) : Storage → CacheCounters
  | .root => { counters with rootRefills := counters.rootRefills + 1 }
  | .middle => { counters with middleRefills := counters.middleRefills + 1 }
  | .sector => { counters with sectorRefills := counters.sectorRefills + 1 }
  | .superpage => { counters with superpageRefills := counters.superpageRefills + 1 }

/-- One way of one storage is written, counted, and marked as accessed. -/
structure Stored (params : Params) (registers : Registers) (refill : Refill)
    (storage : Storage) (cache after : Cache) : Prop where
  lines : ∃ line, storage.tag line = refill.tag registers ∧
    after.linesOf storage =
      (cache.linesOf storage).setIfInBounds
        (positionOf params refill.request.vpn storage
          (chosenWay params refill.request.vpn cache storage).1.toNat)
        line
  policy : after.policyOf storage =
    (chosenWay params refill.request.vpn cache storage).2.access
      (selectedSetOf params refill.request.vpn storage)
      (chosenWay params refill.request.vpn cache storage).1
  others : ∀ other, other ≠ storage →
    after.linesOf other = cache.linesOf other ∧ after.policyOf other = cache.policyOf other
  counters : after.counters = countRefill cache.counters storage

section Refills

variable {params : Params} {registers : Registers} {refill : Refill} {cache : Cache}

private theorem stored_root (level : refill.level = 0) :
    Stored params registers refill .root cache
      (refillRoot params registers refill cache).state where
  lines := by
    refine ⟨_, ?_, rfl⟩
    simp [Storage.tag, Refill.tag, Refill.global, refillRegion, level, leafLevel]
  policy := rfl
  others other different := by
    cases other with
    | root => exact absurd rfl different
    | middle | sector | superpage => exact ⟨rfl, rfl⟩
  counters := rfl

private theorem stored_middle (level : refill.level = 1) :
    Stored params registers refill .middle cache
      (refillMiddle params registers refill cache).state where
  lines := by
    refine ⟨_, ?_, by rw [positionOf, UInt32.ofNat_toNat]; rfl⟩
    simp [Storage.tag, Refill.tag, Refill.global, refillRegion, level, leafLevel]
  policy := rfl
  others other different := by
    cases other with
    | middle => exact absurd rfl different
    | root | sector | superpage => exact ⟨rfl, rfl⟩
  counters := rfl

private theorem stored_sector (level : refill.level = leafLevel) :
    Stored params registers refill .sector cache
      (refillSector params registers refill cache).state where
  lines := by
    refine ⟨_, ?_, by rw [positionOf, UInt32.ofNat_toNat]; rfl⟩
    simp [Storage.tag, Refill.tag, Refill.global, refillRegion, level, allGlobal]
  policy := rfl
  others other different := by
    cases other with
    | sector => exact absurd rfl different
    | root | middle | superpage => exact ⟨rfl, rfl⟩
  counters := rfl

private theorem stored_superpage (level : refill.level < leafLevel) :
    Stored params registers refill .superpage cache
      (refillSuperpage params registers refill cache).state where
  lines := by
    refine ⟨_, ?_, rfl⟩
    simp [Storage.tag, Refill.tag, Refill.global, refillRegion, Nat.ne_of_lt level]
  policy := rfl
  others other different := by
    cases other with
    | superpage => exact absurd rfl different
    | root | middle | sector => exact ⟨rfl, rfl⟩
  counters := rfl

/-- A refill is written to its storage. -/
theorem stored_of_level
    (params : Params) (registers : Registers) (cache : Cache)
    (level : refill.level ≤ leafLevel) :
    ∃ storage, refill.storage? = some storage ∧
      Stored params registers refill storage cache
        (Cache.store params registers refill cache).state := by
  unfold Cache.store
  split
  case isTrue upper =>
    split
    case isTrue ends =>
      exact ⟨_, Refill.storage_of_ends upper (Bool.or_eq_true_iff.1 ends),
        stored_superpage upper⟩
    case isFalse goesOn =>
      rw [Bool.not_eq_true, Bool.or_eq_false_iff] at goesOn
      have written := Refill.storage_of_pointer upper goesOn.1 goesOn.2
      split
      case isTrue first =>
        rw [if_pos first] at written
        exact ⟨_, written, stored_root first⟩
      case isFalse second =>
        rw [if_neg second] at written
        unfold leafLevel at upper
        exact ⟨_, written, stored_middle (by omega)⟩
  case isFalse last =>
    have leaf : refill.level = leafLevel := Nat.le_antisymm level (Nat.not_lt.1 last)
    rw [if_pos leaf]
    exact ⟨_, Refill.storage_of_leaf leaf, stored_sector leaf⟩

theorem Stored.sameShape
    {storage : Storage} {after : Cache}
    (stored : Stored params registers refill storage cache after) : SameShape cache after where
  sizes other := by
    by_cases same : other = storage
    · subst same
      obtain ⟨_, _, lines⟩ := stored.lines
      rw [lines, Array.size_setIfInBounds]
    · rw [(stored.others other same).1]
  fits other ways fits := by
    by_cases same : other = storage
    · subst same
      rw [stored.policy]
      exact (fits.choose _ _).2.access _ _
    · rwa [(stored.others other same).2]

theorem sameShape_refill
    (params : Params) (registers : Registers) (refill : Refill) (cache : Cache) :
    SameShape cache (Cache.refill params registers refill cache).state := by
  rcases refill_cases params registers refill cache with
    ⟨_, level, state⟩ | ⟨_, _, _, state⟩
  · have begun : SameShape cache { cache with refilled := true } := .of_eq rfl rfl
    obtain ⟨_, _, stored⟩ := stored_of_level params registers { cache with refilled := true } level
    rw [state]
    exact (begun.trans stored.sameShape).trans (.of_eq rfl rfl)
  · rw [state]
    exact .of_eq rfl rfl

end Refills

/-! ## Histories -/

/-- Whatever is done to a cache, its storages keep their shape. -/
theorem sameShape_perform (params : Params) (history : History) (move : Move) :
    SameShape history.cache (history.perform params move).state.cache := by
  cases move with
  | send lookup =>
      change SameShape _ (Cache.send params lookup history.cache).2.state
      obtain ⟨_, ⟨_, _, state⟩ | ⟨_, _, state⟩⟩ := send_cases params lookup history.cache
      all_goals
        rw [state]
        exact .of_eq rfl rfl
  | tick => exact sameShape_tick params history.registers history.cache
  | pop =>
      change SameShape _ (Cache.pop params history.cache).state
      unfold Cache.pop
      split
      · exact .of_eq rfl rfl
      · exact .refl _
  | refill refill =>
      rw [cache_perform_refill]
      exact sameShape_refill params history.registers refill history.cache
  | fence fence =>
      refine ⟨fun storage => ?_, fun storage ways fits => by cases storage <;> exact fits⟩
      cases storage <;> exact Array.size_map
  | flush => exact .of_eq rfl rfl
  | install registers => exact .refl _
  | corrupt level set way =>
      change SameShape _ (Cache.corrupt params level set way history.cache).state
      rcases Cache.corrupt_cases params level set way history.cache with
        same | ⟨change, _, same⟩ | ⟨change, _, same⟩
      · rw [same]
        exact .refl _
      · rw [same]
        refine ⟨fun storage => ?_, fun storage ways fits => by cases storage <;> exact fits⟩
        cases storage with
        | middle => simp only [linesOf, Array.size_modify]
        | root | sector | superpage => rfl
      · rw [same]
        refine ⟨fun storage => ?_, fun storage ways fits => by cases storage <;> exact fits⟩
        cases storage with
        | sector => simp only [linesOf, Array.size_modify]
        | root | middle | superpage => rfl

/-- The storages have their sizes, and the policies name their ways. -/
structure Housed (params : Params) (cache : Cache) : Prop where
  sizes : ∀ storage : Storage, (cache.linesOf storage).size = (storage.size params).toNat
  fits : ∀ storage : Storage, (cache.policyOf storage).Fits (storage.ways params)

theorem housed_of_create
    {params : Params} {cache : Cache} (created : Cache.create params = .ok cache) :
    Housed params cache := by
  obtain ⟨_, _, _, _, _, root, middle, sector, superpage, rfl⟩ := create_spec created
  constructor
  · intro storage
    cases storage <;> exact Array.size_replicate
  · intro storage
    cases storage with
    | root => exact ReplacementPolicy.fits_of_create root
    | middle => exact ReplacementPolicy.fits_of_create middle
    | sector => exact ReplacementPolicy.fits_of_create sector
    | superpage => exact ReplacementPolicy.fits_of_create superpage

theorem Housed.of_sameShape
    {params : Params} {cache after : Cache} (housed : Housed params cache)
    (same : SameShape cache after) : Housed params after where
  sizes storage := (same.sizes storage).trans (housed.sizes storage)
  fits storage := same.fits storage (housed.fits storage)

theorem housed_of_run
    {params : Params} {cache : Cache} (created : Cache.create params = .ok cache)
    (registers : Registers) (moves : List Move) :
    Housed params (History.run params moves ⟨cache, registers, [], []⟩).state.cache := by
  let kept (history : History) : Prop := Housed params history.cache
  have start : kept ⟨cache, registers, [], []⟩ := housed_of_create created
  have step (move : Move) (_ : move ∈ moves) (history : History) (housed : kept history) :
      kept (history.perform params move).state :=
    housed.of_sameShape (sameShape_perform params history move)
  exact Outcome.forEach_state_induction step start

end Cache

end PageWalk
