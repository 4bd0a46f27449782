import PageWalk.Proofs.Cache.Sets
import PageWalk.Proofs.Cache.Shape

/-!
# What a refill changes

A refill that is dropped is only counted. Any other is written to one line of one storage,
in the set that its page selects, and a valid line makes room for it only if all lines of
the set are valid. Of the lookups on their way it changes nothing but the bypass marks.
-/

namespace PageWalk.Cache

variable {params : Params} {cache after : Cache} {registers : Registers} {refill : Refill}
  {storage : Storage}

/-! ## One line -/

/-- One line of a set is written, and no other line. -/
structure Rewritten {Line : Type} (valid : Line → Bool) (positions : List Nat)
    (lines after : Array Line) (position : Nat) (line : Line) : Prop where
  selected : position ∈ positions
  written : after[position]? = some line
  others : ∀ other, other ≠ position → after[other]? = lines[other]?
  /-- A valid line makes room only in a set that is full. -/
  full : ∀ old, lines[position]? = some old → valid old = true →
    ∀ other ∈ positions, ∃ kept, lines[other]? = some kept ∧ valid kept = true

/-- A line is written to the way that the policy of its storage has chosen. -/
theorem rewritten_of_choose
    {Line : Type} {policy : ReplacementPolicy} {ways : UInt32} (fits : policy.Fits ways)
    (set : UInt32) (valid : Line → Bool) (position : Nat → Nat) (lines : Array Line)
    (blank line : Line) (inside : ∀ way < ways.toNat, position way < lines.size) :
    let chosen := (policy.choose set fun way => valid (lines.getD (position way) blank)).1.toNat
    Rewritten valid ((List.range ways.toNat).map position) lines
      (lines.setIfInBounds (position chosen) line) (position chosen) line := by
  intro chosen
  let validWay (way : Nat) : Bool := valid (lines.getD (position way) blank)
  have below : chosen < ways.toNat := UInt32.lt_iff_toNat_lt.1 (fits.choose set _).1
  have read {way : Nat} {held : Line} (found : lines[position way]? = some held) :
      lines.getD (position way) blank = held := by
    rw [Array.getD_eq_getD_getElem?, found]
    rfl
  constructor
  case selected => exact List.mem_map.2 ⟨chosen, List.mem_range.2 below, rfl⟩
  case written => exact Array.getElem?_setIfInBounds_self_of_lt (inside chosen below)
  case others =>
    intro other different
    exact Array.getElem?_setIfInBounds_ne (Ne.symm different)
  case full =>
    intro old found oldValid other member
    obtain ⟨way, wayMember, rfl⟩ := List.mem_map.1 member
    have wayBelow := List.mem_range.1 wayMember
    have stored := Array.getElem?_eq_getElem (inside way wayBelow)
    have evicts : validWay chosen = true := (congrArg valid (read found)).trans oldValid
    have kept : validWay way = true := fits.full_of_choose set validWay evicts way wayBelow
    exact ⟨_, stored, (congrArg valid (read stored)).symm.trans kept⟩

/-! ## The set of a page -/

/-- Where the lines of the set that a page selects are kept. -/
def positionsOf (params : Params) (vpn : Word) (storage : Storage) : List Nat :=
  (List.range (storage.ways params).toNat).map (positionOf params vpn storage)

/-- The storage holds all lines of the set that a page selects. This fails only if the
number of its lines has wrapped around. -/
def HoldsSet (params : Params) (vpn : Word) (storage : Storage) : Prop :=
  ∀ position ∈ positionsOf params vpn storage, position < (storage.size params).toNat

/-- The number of lines is the product of the sets and the ways, in 32 bits. -/
theorem toNat_size (params : Params) (storage : Storage) :
    (storage.size params).toNat =
      (storage.sets params).toNat * (storage.ways params).toNat % UInt32.size := by
  cases storage with
  | root | superpage =>
      change _ = 1 * _ % _
      rw [Nat.one_mul]
      exact (Nat.mod_eq_of_lt (UInt32.toNat_lt _)).symm
  | middle | sector => exact UInt32.toNat_mul _ _

/-- A way is kept behind the ways of the sets before its own, in 32 bits. -/
theorem positionOf_eq (params : Params) (vpn : Word) (storage : Storage) {way : Nat}
    (below : way < (storage.ways params).toNat) :
    positionOf params vpn storage way =
      (selectedSetOf params vpn storage * storage.ways params + UInt32.ofNat way).toNat := by
  cases storage with
  | root | superpage =>
      change way = (0 * _ + UInt32.ofNat way).toNat
      rw [UInt32.zero_mul, UInt32.zero_add, toNat_ofNat_of_below below]
  | middle | sector => rfl

theorem selectedSetOf_lt (positive : 0 < storage.sets params) (vpn : Word) :
    selectedSetOf params vpn storage < storage.sets params := by
  cases storage with
  | root | superpage => exact positive
  | middle | sector => exact selectedSet_lt positive _

/-- In a storage whose lines can be counted in 32 bits a way is where its set has it. -/
theorem positionOf_of_counted
    (positive : 0 < storage.sets params)
    (counted : (storage.sets params).toNat * (storage.ways params).toNat < UInt32.size)
    (vpn : Word) {way : Nat} (below : way < (storage.ways params).toNat) :
    positionOf params vpn storage way =
        (selectedSetOf params vpn storage).toNat * (storage.ways params).toNat + way ∧
      positionOf params vpn storage way < (storage.size params).toNat := by
  obtain ⟨place, inside⟩ :=
    toNat_position (Nat.le_of_lt counted) (selectedSetOf_lt positive vpn) below
  rw [positionOf_eq params vpn storage below, toNat_size, Nat.mod_eq_of_lt counted]
  exact ⟨place, place ▸ inside⟩

/-- A storage whose lines can be counted in 32 bits holds all its sets. -/
theorem holdsSet_of_counted
    (positive : 0 < storage.sets params)
    (counted : (storage.sets params).toNat * (storage.ways params).toNat < UInt32.size)
    (vpn : Word) : HoldsSet params vpn storage := by
  intro position member
  obtain ⟨way, wayMember, rfl⟩ := List.mem_map.1 member
  exact (positionOf_of_counted positive counted vpn (List.mem_range.1 wayMember)).2

/-! ## Lookups on their way -/

/-- A cache without the bypass marks of its lookups. -/
def unmarked (cache : Cache) : Cache :=
  { cache with
    waiting := cache.waiting.map fun stage => { stage with bypass := {} }
    reading := cache.reading.map fun stage => { stage with bypass := {} }
    checked := cache.checked.map fun stage => { stage with bypass := {} }
    answer := cache.answer.map fun answer => { answer with bypassed := false } }

theorem SameStages.unmarked (same : SameStages cache after) :
    SameStages cache.unmarked after.unmarked := by
  unfold Cache.unmarked
  constructor
  · rw [same.waiting]
  · rw [same.reading]
  · rw [same.checked]
  · rw [same.answer]

theorem sameStages_markLookups (refill : Refill) (cache : Cache) :
    SameStages cache.unmarked (markLookups refill cache).unmarked := by
  have answer (answer : CacheAnswer) :
      { markAnswer refill answer with bypassed := false } =
        { answer with bypassed := false } := by
    unfold markAnswer
    split <;> rfl
  unfold Cache.unmarked markLookups
  constructor
  case answer => simp only [Option.map_map, Function.comp_def, answer]
  all_goals simp only [Option.map_map, Function.comp_def]

/-! ## Refills -/

/-- A refill that is dropped is counted, and all else stays. -/
def Dropped (cache after : Cache) : Prop :=
  ∃ refilled, after = { cache.countDropped with refilled := refilled }

/-- A refill is written to one line of one storage. -/
structure WrittenTo (params : Params) (registers : Registers) (refill : Refill)
    (storage : Storage) (cache after : Cache) : Prop where
  line : HoldsSet params refill.request.vpn storage →
    ∃ position line, storage.tag line = refill.tag registers ∧
      Rewritten (fun line => (storage.tag line).valid)
        (positionsOf params refill.request.vpn storage) (cache.linesOf storage)
        (after.linesOf storage) position line
  others : ∀ other, other ≠ storage →
    after.linesOf other = cache.linesOf other ∧ after.policyOf other = cache.policyOf other
  counters : after.counters = countRefill cache.counters storage
  lookups : SameStages cache.unmarked after.unmarked

theorem Stored.writtenTo
    (housed : Housed params cache) (stored : Stored params registers refill storage cache after)
    (same : SameStages cache after) :
    WrittenTo params registers refill storage cache (markLookups refill after) where
  line holds := by
    obtain ⟨line, tag, lines⟩ := stored.lines
    have inside (way : Nat) (below : way < (storage.ways params).toNat) :
        positionOf params refill.request.vpn storage way < (cache.linesOf storage).size := by
      rw [housed.sizes storage]
      exact holds _ (List.mem_map.2 ⟨way, List.mem_range.2 below, rfl⟩)
    have rewritten := rewritten_of_choose (housed.fits storage)
      (selectedSetOf params refill.request.vpn storage) (fun line => (storage.tag line).valid)
      (positionOf params refill.request.vpn storage) (cache.linesOf storage) storage.blank line
      inside
    refine ⟨positionOf params refill.request.vpn storage
      (chosenWay params refill.request.vpn cache storage).1.toNat, line, tag, ?_⟩
    change Rewritten _ _ _ (after.linesOf storage) _ _
    rw [lines]
    exact rewritten
  others := stored.others
  counters := stored.counters
  lookups := same.unmarked.trans (sameStages_markLookups refill after)

/-- In the step of a flush, and if its entry names a page that cannot exist, a refill is
dropped. -/
theorem dropped_of_refill
    (drops : cache.flushed = true ∨
      refill.request.mode.accessFault refill.selected params.addressBits = true) :
    Dropped cache (Cache.refill params registers refill cache).state := by
  unfold Cache.refill
  by_cases flushed : cache.flushed = true
  · rw [if_pos flushed]
    exact ⟨cache.refilled, rfl⟩
  · rw [if_neg flushed]
    dsimp only
    rw [if_pos (drops.resolve_left flushed)]
    exact ⟨true, rfl⟩

theorem writtenTo_of_refill
    (housed : Housed params cache) (level : refill.level ≤ leafLevel)
    (flushed : cache.flushed = false)
    (inside : refill.request.mode.accessFault refill.selected params.addressBits = false) :
    ∃ storage, refill.storage? = some storage ∧
      WrittenTo params registers refill storage cache
        (Cache.refill params registers refill cache).state := by
  rcases refill_cases params registers refill cache with ⟨_, _, state⟩ | ⟨dropped, _⟩
  · have begun : SameShape cache { cache with refilled := true } := .of_eq rfl rfl
    obtain ⟨storage, written, stored⟩ :=
      stored_of_level params registers { cache with refilled := true } level
    have same := (store_spec params registers { cache with refilled := true } level).1
    rw [state]
    have wrote := stored.writtenTo (housed.of_sameShape begun) same
    exact ⟨storage, written, { wrote with lookups := { wrote.lookups with } }⟩
  · unfold takes at dropped
    simp [flushed, inside, level] at dropped

/-! ## Histories -/

/-- At every point of a history, a refill of one of the three levels stops nothing. In the
step of a flush, or if its entry names a page that cannot exist, it is counted as dropped
and changes nothing else; otherwise it is written to one line of the storage of its kind. -/
theorem writtenTo_of_run
    (created : Cache.create params = .ok cache) (registers : Registers) (moves : List Move)
    (present : Registers) (level : refill.level ≤ leafLevel) :
    let before := (History.run params moves ⟨cache, registers, [], []⟩).state.cache
    let outcome := Cache.refill params present refill before
    outcome.fault = none ∧
      if before.flushed ||
          refill.request.mode.accessFault refill.selected params.addressBits then
        Dropped before outcome.state
      else
        ∃ storage, refill.storage? = some storage ∧
          WrittenTo params present refill storage before outcome.state := by
  intro before outcome
  refine ⟨(refill_spec params present before level).2.running, ?_⟩
  split
  case isTrue drops => exact dropped_of_refill (Bool.or_eq_true_iff.1 drops)
  case isFalse takes =>
    rw [Bool.not_eq_true, Bool.or_eq_false_iff] at takes
    exact writtenTo_of_refill (housed_of_run created registers moves) level takes.1 takes.2

/-- A third pointer for a set of two ways makes one of the others go. -/
theorem writtenTo_of_small_run :
    let pointer (vpn raw : Word) : Refill :=
      { level := 1, request := { vpn := vpn }, selected := ⟨raw⟩ }
    let moves : List Move := [.refill (pointer 5 0x801), .refill (pointer 0x805 0xc01), .tick]
    let refill := pointer 0x1005 0x1001
    refill.level ≤ leafLevel ∧ HoldsSet .small refill.request.vpn .middle ∧
      ∃ cache, Cache.create .small = .ok cache ∧
        let before := (History.run .small moves ⟨cache, {}, [], []⟩).state.cache
        let outcome := Cache.refill .small {} refill before
        (before.validMiddles, outcome.state.validMiddles) = (2, 2) ∧
          outcome.state.counters.middleRefills = 3 ∧ outcome.fault = none ∧
          if before.flushed ||
              refill.request.mode.accessFault refill.selected Params.small.addressBits then
            Dropped before outcome.state
          else
            ∃ storage, refill.storage? = some storage ∧
              WrittenTo .small {} refill storage before outcome.state := by
  intro pointer moves refill
  have level : refill.level ≤ leafLevel := by decide
  have created : Cache.create .small = .ok _ := rfl
  have holds : HoldsSet .small refill.request.vpn .middle :=
    holdsSet_of_counted (by decide) (by decide) _
  exact ⟨level, holds, _, created, by decide +kernel, by decide +kernel,
    writtenTo_of_run created {} moves {} level⟩

end PageWalk.Cache
