import Mathlib.Algebra.Group.Nat.Defs
import PageWalk.Replacement.Policy

/-!
# Victims

Whatever a policy remembers, it names one of its ways.
-/

namespace PageWalk

namespace Replacement

variable {ways : UInt32}

private theorem ofNat_lt {way : Nat} (inside : way < ways.toNat) : UInt32.ofNat way < ways := by
  rw [UInt32.lt_iff_toNat_lt, toNat_ofNat_of_below inside]
  exact inside

/-! ## Least recently used -/

theorem Lru.victim_lt (lru : Lru) (positive : 0 < ways) (set : UInt32) :
    lru.victim ways set < ways := by
  unfold Lru.victim
  refine ofNat_lt ?_
  have start : 0 < ways.toNat := UInt32.lt_iff_toNat_lt.1 positive
  refine List.foldlRecOn (List.range ways.toNat) _ (motive := (· < ways.toNat)) start ?_
  intro best inside way member
  split
  · exact List.mem_range.1 member
  · exact inside

/-! ## Tree pseudo-LRU -/

private theorem TreePlru.toNat_child_le (way : UInt32) (upper : Bool) :
    (child way upper).toNat ≤ 2 * way.toNat + 1 := by
  have two : (2 : UInt32).toNat = 2 := rfl
  have bit : (if upper then 1 else 0 : UInt32).toNat ≤ 1 := by cases upper <;> decide
  unfold child
  rw [UInt32.toNat_add, UInt32.toNat_mul, two, Nat.mod_add_mod]
  have below := Nat.mod_le (way.toNat * 2 + (if upper then 1 else 0 : UInt32).toNat) (2 ^ 32)
  omega

/-- The turns below a node append as many bits to a way as there are levels. -/
private theorem TreePlru.descendFrom_lt
    (tree : TreePlru) (base : UInt32) (depth : Nat) (node way : UInt32) :
    (tree.descendFrom base depth node way).toNat < (way.toNat + 1) * 2 ^ depth := by
  induction depth generalizing node way with
  | zero => simp [descendFrom]
  | succ depth inductionHypothesis =>
      let turned := child way (tree.bit (base + node))
      calc
        (tree.descendFrom base (depth + 1) node way).toNat
            < (turned.toNat + 1) * 2 ^ depth := inductionHypothesis _ _
        _ ≤ (2 * way.toNat + 2) * 2 ^ depth :=
            Nat.mul_le_mul_right _ (Nat.succ_le_succ (toNat_child_le way _))
        _ = (way.toNat + 1) * 2 ^ (depth + 1) := by
            rw [Nat.pow_succ]
            grind

theorem TreePlru.victim_lt (tree : TreePlru) (positive : 0 < ways) (set : UInt32) :
    tree.victim ways set < ways := by
  have nonzero : ways.toNat ≠ 0 := Nat.ne_of_gt (UInt32.lt_iff_toNat_lt.1 positive)
  have below := tree.descendFrom_lt (set * ways) (depth ways) 1 0
  have leaves : 2 ^ depth ways ≤ ways.toNat := by
    unfold depth floorLogTwo
    rw [UInt32.toNat_toUInt64]
    exact Nat.log2_self_le nonzero
  have zero : (0 : UInt32).toNat = 0 := rfl
  unfold victim
  rw [UInt32.lt_iff_toNat_lt]
  rw [zero, Nat.zero_add, Nat.one_mul] at below
  exact Nat.lt_of_lt_of_le below leaves

/-! ## Random draws -/

theorem product_lt {range : Nat} (positive : 0 < range) (word : Word) :
    word.toNat * range / UInt64.size < range := by
  refine Nat.div_lt_of_lt_mul ?_
  exact Nat.mul_lt_mul_of_pos_right word.toNat_lt positive

private theorem redraw_lt
    {range : Nat} (positive : 0 < range) (threshold fuel : Nat) (word : Word)
    (twister : Twister) : (redraw range threshold fuel word twister).1 < range := by
  induction fuel generalizing word twister with
  | zero => exact product_lt positive word
  | succ fuel inductionHypothesis =>
      unfold redraw
      dsimp only
      split
      · exact inductionHypothesis _ _
      · exact product_lt positive word

theorem drawBelow_lt {range : Nat} (positive : 0 < range) (twister : Twister) :
    (drawBelow range twister).1 < range := by
  unfold drawBelow
  dsimp only
  split
  · exact redraw_lt positive _ _ _ _
  · exact product_lt positive _

end Replacement

open Replacement

namespace ReplacementPolicy

/-! ## Policies -/

/-- A policy of sets with this many ways. -/
structure Fits (ways : UInt32) (policy : ReplacementPolicy) : Prop where
  same : policy.ways = ways
  positive : 0 < ways

variable {ways : UInt32} {policy : ReplacementPolicy}

private theorem pos_of_ne_zero {size : UInt32} (nonzero : ¬ size = 0) : 0 < size := by
  refine UInt32.lt_iff_toNat_lt.2 (Nat.pos_of_ne_zero fun zero => nonzero ?_)
  exact UInt32.toNat_inj.1 zero

/-- The policies of the three names. -/
inductive Created (name : String) (sets ways : UInt32) : ReplacementPolicy → Prop
  | lru (named : name = "lru") : Created name sets ways ⟨sets, ways, .lru {}⟩
  | treePlru (named : name = "plru") (power : isPowerOfTwo ways.toUInt64 = true) :
      Created name sets ways ⟨sets, ways, .treePlru {}⟩
  | random (named : name = "random") :
      Created name sets ways ⟨sets, ways, .random (.ofSeed Twister.defaultSeed)⟩

private theorem eq_of_ofHistory
    {sets : UInt32} {history : Replacement.History}
    (made : ofHistory sets ways history = .ok policy) :
    0 < sets ∧ 0 < ways ∧ policy = ⟨sets, ways, history⟩ := by
  unfold ofHistory at made
  split at made
  · cases made
  · rename_i nonempty
    cases made
    simp only [Bool.or_eq_true, beq_iff_eq, not_or] at nonempty
    exact ⟨pos_of_ne_zero nonempty.1, pos_of_ne_zero nonempty.2, rfl⟩

/-- A policy is only made for a storage that has sets and ways. -/
theorem created_of_create
    {name : String} {sets : UInt32} (created : create name sets ways = .ok policy) :
    0 < sets ∧ 0 < ways ∧ Created name sets ways policy := by
  unfold create at created
  split at created
  · rename_i lru
    obtain ⟨some, positive, rfl⟩ := eq_of_ofHistory created
    exact ⟨some, positive, .lru lru⟩
  · split at created
    · rename_i tree
      simp only [bind, Except.bind] at created
      split at created
      case h_1 => cases created
      rename_i made
      obtain ⟨some, positive, rfl⟩ := eq_of_ofHistory made
      split at created
      · rename_i power
        cases created
        exact ⟨some, positive, .treePlru tree power⟩
      · cases created
    · split at created
      · rename_i random
        obtain ⟨some, positive, rfl⟩ := eq_of_ofHistory created
        exact ⟨some, positive, .random random⟩
      · cases created

theorem spec_of_create
    {name : String} {sets : UInt32} (created : create name sets ways = .ok policy) :
    0 < sets ∧ policy.Fits ways := by
  obtain ⟨some, positive, kind⟩ := created_of_create created
  refine ⟨some, ?_, positive⟩
  cases kind with
  | lru | treePlru | random => rfl

theorem fits_of_create
    {name : String} {sets : UInt32} (created : create name sets ways = .ok policy) :
    policy.Fits ways :=
  (spec_of_create created).2

theorem Fits.access (fits : policy.Fits ways) (set way : UInt32) :
    (policy.access set way).Fits ways := by
  unfold ReplacementPolicy.access
  split
  · exact { fits with }
  · exact { fits with }
  · exact fits

theorem Fits.victim (fits : policy.Fits ways) (set : UInt32) :
    (policy.victim set).1 < ways ∧ (policy.victim set).2.Fits ways := by
  unfold ReplacementPolicy.victim
  rw [fits.same]
  split
  · exact ⟨Lru.victim_lt _ fits.positive set, fits⟩
  · exact ⟨TreePlru.victim_lt _ fits.positive set, fits⟩
  · exact ⟨ofNat_lt (drawBelow_lt (UInt32.lt_iff_toNat_lt.1 fits.positive) _),
      ⟨rfl, fits.positive⟩⟩

/-- A refill goes to one of the ways of its set. -/
theorem Fits.choose (fits : policy.Fits ways) (set : UInt32) (valid : Nat → Bool) :
    (policy.choose set valid).1 < ways ∧ (policy.choose set valid).2.Fits ways := by
  unfold ReplacementPolicy.choose
  split
  · rename_i way found
    have inside := List.mem_range.1 (List.mem_of_find?_eq_some found)
    rw [fits.same] at inside
    exact ⟨ofNat_lt inside, fits⟩
  · exact fits.victim set

/-- A valid way is chosen only if all ways of the set are valid. -/
theorem Fits.full_of_choose
    (fits : policy.Fits ways) (set : UInt32) (valid : Nat → Bool)
    (evicts : valid (policy.choose set valid).1.toNat = true) :
    ∀ way < ways.toNat, valid way = true := by
  unfold ReplacementPolicy.choose firstInvalid at evicts
  rw [fits.same] at evicts
  split at evicts
  · rename_i way found
    have inside := List.mem_range.1 (List.mem_of_find?_eq_some found)
    have invalid := List.find?_some found
    rw [toNat_ofNat_of_below inside] at evicts
    rw [evicts] at invalid
    cases invalid
  · rename_i none
    intro way inside
    simpa using List.find?_eq_none.1 none way (List.mem_range.2 inside)

/-! ## Histories -/

/-- Accesses ways of sets, one after the other. -/
def accessAll (policy : ReplacementPolicy) : List (UInt32 × UInt32) → ReplacementPolicy
  | [] => policy
  | (set, way) :: later => (policy.access set way).accessAll later

end ReplacementPolicy

end PageWalk
