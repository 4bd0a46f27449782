import PageWalk.Proofs.TableWalk

/-!
# Slots of page tables

A table of a level is named by the page-number bits above the index of the level, and a slot of
the table by the index. Both together are the region of the slot, as long as the page number is
not wider than its stage. The slots of tables on different pages have different addresses.
-/

namespace PageWalk

/-! ## Regions and indices -/

/-- A page number that is not wider than the indices of its stage. -/
def FitsStage (guest : Bool) (vpn : Word) : Prop :=
  vpn.toNat < 2 ^ (if guest then guestVpnBits else vpnBits).toNat

instance (guest : Bool) (vpn : Word) : Decidable (FitsStage guest vpn) :=
  inferInstanceAs (Decidable (_ < _))

/-- The page-number bits above the index of a level; nothing is above the root index. -/
def upperTag (vpn : Word) : Nat → Word
  | 0 => 0
  | level + 1 => regionTag vpn level

/-- The pages of a table: the root of the second stage has four. -/
def pageCount (guest : Bool) (level : Nat) : Nat :=
  if guest && level == 0 then 4 else 1

theorem pageCount_cases (guest : Bool) (level : Nat) :
    pageCount guest level = 1 ∨ pageCount guest level = 4 := by
  unfold pageCount
  split
  · exact .inr rfl
  · exact .inl rfl

/-- Page numbers of one region lie in one region of every level above. -/
theorem regionTag_eq_of_le
    {vpn other : Word} {upper level : Nat} (above : upper ≤ level) (bound : level ≤ leafLevel)
    (same : regionTag vpn level = regionTag other level) :
    regionTag vpn upper = regionTag other upper := by
  induction above with
  | refl => exact same
  | step _ inductionHypothesis =>
      exact inductionHypothesis (Nat.le_of_succ_le bound) (regionTag_eq_of_succ bound same)

theorem toNat_regionTag (vpn : Word) {level : Nat} (bound : level ≤ leafLevel) :
    (regionTag vpn level).toNat = vpn.toNat / 2 ^ (9 * (leafLevel - level)) :=
  toNat_shiftRight_eq_div vpn (openBits_of_le bound)

theorem toNat_tableIndex (guest : Bool) (vpn : Word) {level : Nat} (bound : level ≤ leafLevel) :
    (tableIndex guest vpn level).toNat =
      (regionTag vpn level).toNat % (512 * pageCount guest level) := by
  rw [tableIndex_eq_regionTag guest vpn bound]
  unfold indexMask pageCount
  split
  · exact toNat_and_eq_mod _ (by decide : _ = 2 ^ 11 - 1)
  · exact toNat_and_eq_mod _ (by decide : _ = 2 ^ 9 - 1)

theorem tableIndex_lt (guest : Bool) (vpn : Word) {level : Nat} (bound : level ≤ leafLevel) :
    (tableIndex guest vpn level).toNat < 512 * pageCount guest level := by
  rw [toNat_tableIndex guest vpn bound]
  rcases pageCount_cases guest level with one | four
  · exact Nat.mod_lt _ (by omega)
  · exact Nat.mod_lt _ (by omega)

/-- The bits above a region are those of all its page numbers. -/
theorem upperTag_eq_of_regionTag
    {vpn other : Word} {level : Nat} (bound : level ≤ leafLevel)
    (same : regionTag vpn level = regionTag other level) :
    upperTag vpn level = upperTag other level := by
  cases level with
  | zero => rfl
  | succ level => exact regionTag_eq_of_succ bound same

/-- The bits above an index and the index are all there is to a region. -/
theorem regionTag_eq_of_tableIndex
    {guest : Bool} {vpn other : Word} {level : Nat} (bound : level ≤ leafLevel)
    (fits : FitsStage guest vpn) (otherFits : FitsStage guest other)
    (upper : upperTag vpn level = upperTag other level)
    (index : tableIndex guest vpn level = tableIndex guest other level) :
    regionTag vpn level = regionTag other level := by
  have indices := congrArg UInt64.toNat index
  rw [toNat_tableIndex guest vpn bound, toNat_tableIndex guest other bound] at indices
  apply UInt64.toNat_inj.1
  cases level with
  | zero =>
      have small (number : Word) (narrow : FitsStage guest number) :
          (regionTag number 0).toNat < 512 * pageCount guest 0 := by
        rw [toNat_regionTag number bound]
        unfold FitsStage at narrow
        refine Nat.div_lt_of_lt_mul (Nat.lt_of_lt_of_eq narrow ?_)
        cases guest <;> rfl
      rwa [Nat.mod_eq_of_lt (small vpn fits), Nat.mod_eq_of_lt (small other otherFits)] at indices
  | succ level =>
      have above (number : Word) :
          (regionTag number level).toNat = (regionTag number (level + 1)).toNat / 512 := by
        have step : 9 * (leafLevel - level) = 9 * (leafLevel - (level + 1)) + 9 := by
          unfold leafLevel at bound ⊢
          omega
        rw [toNat_regionTag number (Nat.le_of_succ_le bound), toNat_regionTag number bound,
          Nat.div_div_eq_div_mul, step, Nat.pow_add]
      have one : pageCount guest (level + 1) = 1 := by simp [pageCount]
      have quotients := congrArg UInt64.toNat upper
      change (regionTag vpn level).toNat = (regionTag other level).toNat at quotients
      rw [above, above] at quotients
      rw [one] at indices
      omega

/-! ## Addresses -/

/-- One address is the address of one entry only, if it does not wrap. -/
theorem entryNumber_eq_of_entryAddress
    {page other index otherIndex : Word} (small : page.toNat < 2 ^ 44)
    (otherSmall : other.toNat < 2 ^ 44) (inside : index.toNat < 2048)
    (otherInside : otherIndex.toNat < 2048)
    (same : entryAddress page index = entryAddress other otherIndex) :
    page.toNat * 512 + index.toNat = other.toNat * 512 + otherIndex.toNat := by
  have numbers := congrArg UInt64.toNat same
  rw [toNat_entryAddress, toNat_entryAddress] at numbers
  omega

/-! ## Entries that are written -/

namespace Pte

theorem toNat_make (ppn flags : Word) :
    (make ppn flags).raw.toNat = ppn.toNat % 2 ^ 44 * 1024 + flags.toNat % 256 := by
  have number : (ppn &&& lowMask ppnBits).toNat = ppn.toNat % 2 ^ 44 :=
    toNat_and_eq_mod ppn (by decide)
  have flag : (flags &&& 0xff).toNat = flags.toNat % 256 :=
    toNat_and_eq_mod flags (by decide : _ = 2 ^ 8 - 1)
  have shifted : ((ppn &&& lowMask ppnBits) <<< 10).toNat = (ppn.toNat % 2 ^ 44) <<< 10 := by
    have ten : (10 : Word).toNat % 64 = 10 := by decide
    rw [UInt64.toNat_shiftLeft, number, ten]
    refine Nat.mod_eq_of_lt ?_
    rw [Nat.shiftLeft_eq]
    omega
  change ((ppn &&& lowMask ppnBits) <<< 10 ||| flags &&& 0xff).toNat = _
  rw [UInt64.toNat_or, shifted, flag, ← Nat.shiftLeft_add_eq_or_of_lt (by omega),
    Nat.shiftLeft_eq]

theorem ppn_make {ppn : Word} (small : ppn.toNat < 2 ^ 44) (flags : Word) :
    (make ppn flags).ppn = ppn := by
  apply UInt64.toNat_inj.1
  change ((make ppn flags).raw >>> 10 &&& lowMask ppnBits).toNat = _
  rw [toNat_and_eq_mod _ (by decide : _ = 2 ^ 44 - 1),
    toNat_shiftRight_eq_div _ (by decide : _ = 10), toNat_make]
  omega

theorem has_make (ppn flags : Word) {bit : Word} (low : bit.toNat < 2 ^ 8) :
    (make ppn flags).has bit = ((flags &&& bit) != 0) := by
  have kept : (0xff : Word) &&& bit = bit := by
    apply UInt64.toNat_inj.1
    rw [UInt64.and_comm, toNat_and_eq_mod bit (by decide : _ = 2 ^ 8 - 1), Nat.mod_eq_of_lt low]
  have lowByte : (make ppn flags).raw &&& 0xff = flags &&& 0xff := by
    apply UInt64.toNat_inj.1
    rw [toNat_and_eq_mod _ (by decide : _ = 2 ^ 8 - 1),
      toNat_and_eq_mod flags (by decide : _ = 2 ^ 8 - 1), toNat_make]
    omega
  have same : (make ppn flags).raw &&& bit = flags &&& bit := by
    rw [← kept, ← UInt64.and_assoc, lowByte, UInt64.and_assoc]
  rw [has, same]

theorem valid_zero : (Pte.mk 0).valid = false := by
  decide

/-- What is written for a table leads the walk on to it. -/
theorem pointer_make (ppn : Word) :
    (make ppn validBit).valid = true ∧ (make ppn validBit).isLeaf = false ∧
      ∀ level, level ≠ leafLevel → (make ppn validBit).pageFaultAt level = false := by
  have bits (bit : Word) (low : bit.toNat < 2 ^ 8) := has_make ppn validBit low
  have valid : (make ppn validBit).valid = true := bits validBit (by decide)
  have readable : (make ppn validBit).has readBit = false := bits readBit (by decide)
  have writable : (make ppn validBit).has writeBit = false := bits writeBit (by decide)
  have executable : (make ppn validBit).has executeBit = false := bits executeBit (by decide)
  have leaf : (make ppn validBit).isLeaf = false := by simp [isLeaf, readable, executable]
  refine ⟨valid, leaf, fun level upper => ?_⟩
  simp [pageFaultAt, valid, leaf, writable, upper]

end Pte

namespace TableTree

variable {tree : TableTree}

/-- A leaf ends the walk. -/
theorem ending_ne_none_of_isLeaf
    {pte : Pte} (leaf : pte.isLeaf = true) (level : Nat) : tree.ending? pte level ≠ none := by
  unfold ending?
  by_cases outside : tree.outside pte = true
  · simp [outside]
  · by_cases fault : pte.pageFaultAt level = true <;> simp [outside, fault, leaf]

end TableTree

end PageWalk
