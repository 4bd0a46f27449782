import PageWalk.Cache.Basic

/-!
# Sets of the cache

Where the lines of a set are kept. As long as the lines of a storage can be counted in 32
bits, no two sets share a line.
-/

namespace PageWalk

/-- A size of which exactly one bit is set is a power of two. -/
theorem isPowerOfTwo_toNat {size : UInt32} (power : isPowerOfTwo size.toUInt64 = true) :
    size.toNat.isPowerOfTwo := by
  unfold isPowerOfTwo at power
  rw [Bool.and_eq_true, bne_iff_ne, beq_iff_eq] at power
  obtain ⟨nonzero, bits⟩ := power
  have positive : size.toNat ≠ 0 := fun none =>
    nonzero (UInt64.toNat_inj.1 (by rw [UInt32.toNat_toUInt64, none]; rfl))
  have less : (size.toUInt64 - 1).toNat = size.toNat - 1 := by
    have one : (1 : Word) ≤ size.toUInt64 := by
      rw [UInt64.le_iff_toNat_le, UInt32.toNat_toUInt64]
      exact Nat.one_le_iff_ne_zero.2 positive
    rw [UInt64.toNat_sub_of_le _ _ one, UInt32.toNat_toUInt64]
    rfl
  have masked : size.toNat &&& (size.toNat - 1) = 0 := by
    have number := congrArg UInt64.toNat bits
    rw [UInt64.toNat_and, less, UInt32.toNat_toUInt64] at number
    exact number
  exact (Nat.and_sub_one_eq_zero_iff_isPowerOfTwo positive).1 masked

namespace Cache

/-- The positions of the lines of a set, in a storage that keeps its lines set by set. -/
def setPositions (ways set : UInt32) : List Nat :=
  (List.range ways.toNat).map fun way => (set * ways + UInt32.ofNat way).toNat

theorem mem_setPositions (ways set : UInt32) {way : Nat} (inside : way < ways.toNat) :
    (set * ways + UInt32.ofNat way).toNat ∈ setPositions ways set :=
  List.mem_map.2 ⟨way, List.mem_range.2 inside, rfl⟩

theorem mem_setPositions_of_lt {ways way : UInt32} (set : UInt32) (inside : way < ways) :
    (set * ways + way).toNat ∈ setPositions ways set := by
  have member := mem_setPositions ways set (UInt32.lt_iff_toNat_lt.1 inside)
  rwa [UInt32.ofNat_toNat] at member

/-- A position is the number of its line, in 32 bits. -/
theorem toNat_position_mod (ways set way : UInt32) :
    (set * ways + way).toNat = (set.toNat * ways.toNat + way.toNat) % UInt32.size := by
  rw [UInt32.toNat_add, UInt32.toNat_mul, Nat.mod_add_mod]

/-- Each number below that of the lines belongs to a way of a set. -/
theorem exists_set_and_way
    {sets ways : UInt32} {number : Nat} (below : number < sets.toNat * ways.toNat) :
    ∃ set way, set < sets ∧ way < ways ∧ set.toNat * ways.toNat + way.toNat = number := by
  have positive : 0 < ways.toNat := by
    refine Nat.pos_of_ne_zero fun none => ?_
    rw [none, Nat.mul_zero] at below
    exact Nat.not_lt_zero number below
  have quotient : number / ways.toNat < sets.toNat :=
    Nat.div_lt_of_lt_mul (by rwa [Nat.mul_comm])
  have remainder : number % ways.toNat < ways.toNat := Nat.mod_lt number positive
  have set := toNat_ofNat_of_below quotient
  have way := toNat_ofNat_of_below remainder
  refine ⟨.ofNat (number / ways.toNat), .ofNat (number % ways.toNat), ?_, ?_, ?_⟩
  · rwa [UInt32.lt_iff_toNat_lt, set]
  · rwa [UInt32.lt_iff_toNat_lt, way]
  · rw [set, way, Nat.mul_comm, Nat.div_add_mod]

/-- In a storage that can be counted in 32 bits no position wraps around. -/
theorem toNat_position
    {sets ways set : UInt32} (fits : sets.toNat * ways.toNat ≤ UInt32.size)
    (inside : set < sets) {way : Nat} (below : way < ways.toNat) :
    (set * ways + UInt32.ofNat way).toNat = set.toNat * ways.toNat + way ∧
      set.toNat * ways.toNat + way < sets.toNat * ways.toNat := by
  have room : (set.toNat + 1) * ways.toNat ≤ sets.toNat * ways.toNat :=
    Nat.mul_le_mul_right _ (UInt32.lt_iff_toNat_lt.1 inside)
  rw [Nat.succ_mul] at room
  have first : set.toNat * ways.toNat + way < sets.toNat * ways.toNat := by omega
  have counted : set.toNat * ways.toNat + way < UInt32.size := Nat.lt_of_lt_of_le first fits
  refine ⟨?_, first⟩
  rw [toNat_position_mod, toNat_ofNat_of_below below, Nat.mod_eq_of_lt counted]

/-- A line of a storage that can be counted in 32 bits names its set. -/
theorem set_eq_of_position
    {sets ways set other : UInt32} (fits : sets.toNat * ways.toNat ≤ UInt32.size)
    (inside : set < sets) (otherInside : other < sets) {position : Nat}
    (here : position ∈ setPositions ways set) (there : position ∈ setPositions ways other) :
    set = other := by
  have quotient (set : UInt32) (inside : set < sets) (here : position ∈ setPositions ways set) :
      set.toNat = position / ways.toNat := by
    obtain ⟨way, member, rfl⟩ := List.mem_map.1 here
    have below : way < ways.toNat := List.mem_range.1 member
    rw [(toNat_position fits inside below).1, Nat.mul_comm, Nat.mul_add_div (by omega),
      Nat.div_eq_of_lt below, Nat.add_zero]
  apply UInt32.toNat_inj.1
  rw [quotient set inside here, quotient other otherInside there]

/-- The set that a region selects. -/
def selectedSet (sets : UInt32) (region : Word) : UInt32 :=
  (region &&& (sets - 1).toUInt64).toUInt32

private theorem toNat_selectedSet {sets : UInt32} (positive : 0 < sets) (region : Word) :
    (selectedSet sets region).toNat = region.toNat &&& (sets.toNat - 1) := by
  have one : (1 : UInt32) ≤ sets := by
    rw [UInt32.lt_iff_toNat_lt] at positive
    exact UInt32.le_iff_toNat_le.2 positive
  have less : (sets - 1).toNat = sets.toNat - 1 := UInt32.toNat_sub_of_le _ _ one
  have below : region.toNat &&& (sets.toNat - 1) ≤ sets.toNat - 1 := Nat.and_le_right
  have small : sets.toNat < 2 ^ 32 := sets.toNat_lt
  unfold selectedSet
  rw [UInt64.toNat_toUInt32, UInt64.toNat_and, UInt32.toNat_toUInt64, less,
    Nat.mod_eq_of_lt (by omega)]

/-- A region selects one of the sets. -/
theorem selectedSet_lt {sets : UInt32} (positive : 0 < sets) (region : Word) :
    selectedSet sets region < sets := by
  have below : region.toNat &&& (sets.toNat - 1) ≤ sets.toNat - 1 := Nat.and_le_right
  have number := toNat_selectedSet positive region
  rw [UInt32.lt_iff_toNat_lt] at positive ⊢
  have zero : (0 : UInt32).toNat = 0 := rfl
  omega

/-- The set of a region is its number modulo the number of sets, if that is a power of
two. -/
theorem selectedSet_eq_mod
    {sets : UInt32} (power : isPowerOfTwo sets.toUInt64 = true) (region : Word) :
    selectedSet sets region = UInt32.ofNat (region.toNat % sets.toNat) := by
  obtain ⟨exponent, same⟩ := isPowerOfTwo_toNat power
  have positive : sets.toNat ≠ 0 := same ▸ Nat.ne_of_gt (Nat.two_pow_pos exponent)
  have below : region.toNat % sets.toNat < sets.toNat :=
    Nat.mod_lt _ (Nat.pos_of_ne_zero positive)
  apply UInt32.toNat_inj.1
  rw [toNat_ofNat_of_below below,
    toNat_selectedSet (UInt32.lt_iff_toNat_lt.2 (Nat.pos_of_ne_zero positive)), same]
  exact Nat.and_two_pow_sub_one_eq_mod _ _

end Cache

end PageWalk
