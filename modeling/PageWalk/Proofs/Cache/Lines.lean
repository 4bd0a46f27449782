import PageWalk.Proofs.Cache.RefillFrame
import PageWalk.Proofs.Tlb.Queues

/-!
# Lines and positions

A storage has a line for each way of each of its sets, at a position of its own, as long as
the lines can be counted in 32 bits. With more of them the number of lines wraps around, and
pages select positions behind the last line. Nothing refuses such sizes.
-/

namespace PageWalk

/-! ## Sets of valid parameters -/

/-- The coded storages of parameters without a flaw have a power of two sets. -/
theorem Params.power_of_flawless {params : Params} (flawless : params.flaw? = none) :
    isPowerOfTwo params.middleSets.toUInt64 = true ∧
      isPowerOfTwo params.sectorSets.toUInt64 = true := by
  unfold flaw? at flawless
  dsimp only at flawless
  split at flawless
  · cases flawless
  split at flawless
  · cases flawless
  split at flawless
  · cases flawless
  · rename_i middle
    split at flawless
    · cases flawless
    · rename_i sector
      exact ⟨by simpa using middle, by simpa using sector⟩

theorem Tlb.flawless_of_create
    {params : Params} {protection : Protection} {memory : Memory} {tlb : Tlb}
    (created : Tlb.create params protection memory = .ok tlb) : params.flaw? = none := by
  cases flaw : params.flaw? with
  | none => rfl
  | some flaw =>
    unfold Tlb.create Params.validate at created
    rw [flaw] at created
    cases created

namespace Cache

variable {params : Params} {cache : Cache} {storage : Storage}

/-- A number that is moved up and down again by fewer than 32 bits. -/
private theorem toNat_shifted {number shift : Nat} (narrow : number < 2 ^ 32) (few : shift < 32) :
    (UInt64.ofNat number <<< UInt64.ofNat shift >>> UInt64.ofNat shift).toNat = number := by
  have small : shift < 2 ^ 64 := by omega
  have fits : number * 2 ^ shift < 2 ^ 64 := by
    calc
      number * 2 ^ shift < 2 ^ 32 * 2 ^ 32 :=
        Nat.mul_lt_mul_of_lt_of_le narrow
          (Nat.pow_le_pow_right (by decide) (Nat.le_of_lt few)) (by decide)
      _ = 2 ^ 64 := by decide
  rw [UInt64.toNat_shiftRight, UInt64.toNat_shiftLeft, UInt64.toNat_ofNat', UInt64.toNat_ofNat',
    Nat.mod_eq_of_lt small, Nat.mod_eq_of_lt (by omega : shift < 64),
    Nat.mod_eq_of_lt (by omega : number < 2 ^ 64), Nat.shiftLeft_eq, Nat.mod_eq_of_lt fits,
    Nat.shiftRight_eq_div_pow, Nat.mul_div_cancel _ (Nat.two_pow_pos shift)]

/-- Each set is selected by a page. -/
theorem exists_selectedSetOf (flawless : params.flaw? = none) {set : Nat}
    (inside : set < (storage.sets params).toNat) :
    ∃ vpn, (selectedSetOf params vpn storage).toNat = set := by
  have narrow : set < 2 ^ 32 := Nat.lt_trans inside (UInt32.toNat_lt _)
  obtain ⟨middlePower, sectorPower⟩ := Params.power_of_flawless flawless
  have selects {sets : UInt32} (power : isPowerOfTwo sets.toUInt64 = true)
      (inside : set < sets.toNat) {region : Word} (same : region.toNat = set) :
      (selectedSet sets region).toNat = set := by
    rw [selectedSet_eq_mod power, same, Nat.mod_eq_of_lt inside, toNat_ofNat_of_below inside]
  cases storage with
  | root | superpage => exact ⟨0, (Nat.lt_one_iff.1 inside).symm⟩
  | middle =>
    exact ⟨UInt64.ofNat set <<< UInt64.ofNat 9,
      selects middlePower inside (toNat_shifted narrow (by decide))⟩
  | sector =>
    exact ⟨UInt64.ofNat set <<< UInt64.ofNat 3,
      selects sectorPower inside (toNat_shifted narrow (by decide))⟩

/-! ## The layout -/

/-- A storage has a line for each way of each set, and keeps the lines set by set. -/
structure LaidOut (params : Params) (storage : Storage) (cache : Cache) : Prop where
  counted : (cache.linesOf storage).size =
    (storage.sets params).toNat * (storage.ways params).toNat
  placed : ∀ (vpn : Word) (way : Nat), way < (storage.ways params).toNat →
    positionOf params vpn storage way =
        (selectedSetOf params vpn storage).toNat * (storage.ways params).toNat + way ∧
      positionOf params vpn storage way < (cache.linesOf storage).size

theorem Housed.laidOut
    (housed : Housed params cache) (positive : 0 < storage.sets params)
    (counted : (storage.sets params).toNat * (storage.ways params).toNat < UInt32.size) :
    LaidOut params storage cache := by
  constructor
  case counted => rw [housed.sizes, toNat_size, Nat.mod_eq_of_lt counted]
  case placed =>
    intro vpn way below
    rw [housed.sizes]
    exact positionOf_of_counted positive counted vpn below

/-- Of more lines than 32 bits can count, the one at the greatest position is missing. -/
theorem Housed.missing
    (housed : Housed params cache) (flawless : params.flaw? = none)
    (uncounted : UInt32.size ≤ (storage.sets params).toNat * (storage.ways params).toNat) :
    ∃ vpn way, way < (storage.ways params).toNat ∧
      (cache.linesOf storage).size ≤ positionOf params vpn storage way := by
  have full : 0 < UInt32.size := by decide
  obtain ⟨set, way, inside, below, number⟩ :=
    exists_set_and_way (Nat.lt_of_lt_of_le (Nat.sub_one_lt_of_lt full) uncounted)
  obtain ⟨vpn, selected⟩ := exists_selectedSetOf flawless (UInt32.lt_iff_toNat_lt.1 inside)
  have wayBelow := UInt32.lt_iff_toNat_lt.1 below
  have last : positionOf params vpn storage way.toNat = UInt32.size - 1 := by
    rw [positionOf_eq params vpn storage wayBelow, UInt32.ofNat_toNat, toNat_position_mod,
      selected, number]
    rfl
  refine ⟨vpn, way.toNat, wayBelow, ?_⟩
  rw [last, housed.sizes]
  exact Nat.le_sub_one_of_lt (UInt32.toNat_lt _)

theorem sets_pos_of_create (created : Cache.create params = .ok cache) (storage : Storage) :
    0 < storage.sets params := by
  obtain ⟨_, _, _, _, _, _, middle, sector, _, _⟩ := create_spec created
  cases storage with
  | root | superpage => exact (by decide : (0 : UInt32) < 1)
  | middle => exact (ReplacementPolicy.spec_of_create middle).1
  | sector => exact (ReplacementPolicy.spec_of_create sector).1

/-- Whatever is done to the cache of a new TLB, a storage whose lines can be counted in 32 bits
has each of them, at its own position. With more lines the storage has fewer than its sets and
ways say, and a page selects a position behind the last one. -/
theorem laidOut_of_run
    {protection : Protection} {memory : Memory} {tlb : Tlb}
    (created : Tlb.create params protection memory = .ok tlb)
    (registers : Registers) (moves : List Move) (storage : Storage) :
    let cache := (History.run params moves ⟨tlb.cache, registers, [], []⟩).state.cache
    let lines := (storage.sets params).toNat * (storage.ways params).toNat
    (lines < UInt32.size → LaidOut params storage cache) ∧
      (UInt32.size ≤ lines →
        (cache.linesOf storage).size ≠ lines ∧
          ∃ vpn way, way < (storage.ways params).toNat ∧
            (cache.linesOf storage).size ≤ positionOf params vpn storage way) := by
  intro cache lines
  have flawless := Tlb.flawless_of_create created
  obtain ⟨_, _, _, _, caching, _, _, _, _, _, rfl⟩ := Tlb.create_spec created
  have housed : Housed params cache := housed_of_run caching registers moves
  refine ⟨housed.laidOut (sets_pos_of_create caching storage), fun uncounted => ?_⟩
  refine ⟨fun same => ?_, housed.missing flawless uncounted⟩
  have narrow : (storage.size params).toNat < UInt32.size := UInt32.toNat_lt _
  rw [← housed.sizes, same] at narrow
  exact Nat.not_le_of_lt narrow uncounted

/-- The middle pointers of a TLB with small sizes, after a refill. -/
theorem laidOut_of_small_run :
    ∃ tlb, Tlb.create .small .allowAll {} = .ok tlb ∧
      (Storage.middle.sets .small).toNat * (Storage.middle.ways .small).toNat = 8 ∧
      LaidOut .small .middle (History.run .small
        [.refill { level := 1, request := { vpn := 5 }, selected := ⟨0x801⟩ }, .tick]
        ⟨tlb.cache, {}, [], []⟩).state.cache := by
  have created : Tlb.create .small .allowAll {} = .ok _ := rfl
  exact ⟨_, created, rfl, (laidOut_of_run created {} _ .middle).1 (by decide)⟩

/-- A TLB can be made with `2 ^ 32` middle pointers. It has none, and no place for the first
one. -/
theorem uncounted_lines :
    let params : Params :=
      { Params.small with
        middleSets := 65536, middleWays := 65536, middlePolicy := "random" }
    (Storage.middle.sets params).toNat * (Storage.middle.ways params).toNat = UInt32.size ∧
      ∃ tlb, Tlb.create params .allowAll {} = .ok tlb ∧
        (tlb.cache.linesOf .middle).size = 0 ∧ ¬ LaidOut params .middle tlb.cache := by
  refine ⟨rfl, _, rfl, rfl, fun laidOut => ?_⟩
  cases laidOut.counted

end Cache

end PageWalk
