import PageWalk.Proofs.Memory
import PageWalk.Proofs.Tables.Slots

/-!
# Indices of page numbers

The region of a page number at a level is told by its table indices down to that level, by all
of them and by no other, and the page number by those of all levels. The last index alone tells
where in a block the leaf entry lies.
-/

namespace PageWalk

/-- Nothing of a page number is below its leaf region. -/
theorem regionTag_leafLevel (vpn : Word) : regionTag vpn leafLevel = vpn :=
  UInt64.shiftRight_zero

/-- Page numbers lie in one region of a level just if they agree in the indices down to it. -/
theorem regionTag_eq_iff_tableIndex
    {guest : Bool} {vpn other : Word} (fits : FitsStage guest vpn)
    (otherFits : FitsStage guest other) {level : Nat} (bound : level ≤ leafLevel) :
    regionTag vpn level = regionTag other level ↔
      ∀ upper ≤ level, tableIndex guest vpn upper = tableIndex guest other upper := by
  constructor
  · intro same upper above
    apply tableIndex_eq_of_regionTag guest (Nat.le_trans above bound)
    exact regionTag_eq_of_le above bound same
  · intro indices
    induction level with
    | zero =>
        exact regionTag_eq_of_tableIndex bound fits otherFits rfl (indices 0 (Nat.le_refl 0))
    | succ level inductionHypothesis =>
        have upper : regionTag vpn level = regionTag other level :=
          inductionHypothesis (Nat.le_of_succ_le bound) fun position above =>
            indices position (Nat.le_succ_of_le above)
        exact regionTag_eq_of_tableIndex bound fits otherFits upper
          (indices (level + 1) (Nat.le_refl _))

/-- The three positions are those of the three levels. -/
theorem forall_position_iff (holds : UInt32 → Prop) :
    (∀ position ∈ [2, 1, 0], holds position) ↔
      ∀ level ≤ leafLevel, holds (levelPosition level) := by
  have positions : [2, 1, 0] = (List.range 3).map levelPosition := by decide
  rw [positions, List.forall_mem_map]
  simp only [List.mem_range, leafLevel, Nat.lt_succ_iff]

/-- The block that is read for a leaf entry has the leaf entries of its sector in their slots,
on every page, and the block of an address has the word of the address in its slot. The indices
of page numbers that are not wider than their stage tell them apart, and those down to a level
tell the regions of the level apart. -/
theorem slots_and_indices (memory : Memory) (page vpn : Word) :
    (∀ other, sectorTag other = sectorTag vpn →
      leafAt (memory.readBlock (entryAddress page (vpnIndex vpn 0))) other =
        memory.readWord (entryAddress page (vpnIndex other 0))) ∧
      blockIndex (entryAddress page (vpnIndex vpn 0)) = sectorIndex vpn ∧
      (∀ address, address % 8 = 0 →
        entryAt (memory.readBlock address) address = memory.readWord address) ∧
      ∀ guest other, FitsStage guest vpn → FitsStage guest other →
        let index := if guest then guestVpnIndex else vpnIndex
        (vpn = other ↔ ∀ position ∈ [2, 1, 0], index vpn position = index other position) ∧
          ∀ level ≤ leafLevel,
            (regionTag vpn level = regionTag other level ↔
              ∀ upper ≤ level,
                index vpn (levelPosition upper) = index other (levelPosition upper)) := by
  refine ⟨?_, ?_, ?_, ?_⟩
  · intro other same
    exact leafAt_readBlock_of_sectorTag memory page same
  · exact blockIndex_entryAddress page vpn
  · intro address aligned
    exact entryAt_readBlock_of_aligned memory aligned
  · intro guest other fits otherFits index
    have tables (number : Word) (level : Nat) :
        index number (levelPosition level) = tableIndex guest number level := by
      cases guest <;> rfl
    have regions {level : Nat} (bound : level ≤ leafLevel) :
        regionTag vpn level = regionTag other level ↔
          ∀ upper ≤ level,
            index vpn (levelPosition upper) = index other (levelPosition upper) := by
      simp only [tables]
      exact regionTag_eq_iff_tableIndex fits otherFits bound
    refine ⟨?_, fun level bound => regions bound⟩
    rw [forall_position_iff, ← regions (Nat.le_refl leafLevel), regionTag_leafLevel,
      regionTag_leafLevel]

/-- A table on a page whose addresses wrap, two page numbers of one sector, and two guest page
numbers that differ in the upper bits of the root index only. -/
theorem slots_and_indices_of_wrapped_page :
    let memory : Memory := ({} : Memory).setWord 0xa30 7
    let page : Word := 0x10000000000000
    sectorTag 0x12346 = sectorTag 0x12345 ∧
      leafAt (memory.readBlock (entryAddress page (vpnIndex 0x12345 0))) 0x12346 = 7 ∧
      (0xa30 : Word) % 8 = 0 ∧ entryAt (memory.readBlock 0xa30) 0xa30 = 7 ∧
      FitsStage true 0x10012345 ∧ FitsStage true 0x12345 ∧
      ¬ (∀ position ∈ [2, 1, 0],
        guestVpnIndex 0x10012345 position = guestVpnIndex 0x12345 position) ∧
      0 ≤ leafLevel ∧ regionTag 0x10012345 0 ≠ regionTag 0x12345 0 := by
  intro memory page
  have word : memory.readWord 0xa30 = 7 := by
    rw [Memory.readWord_setWord, if_pos rfl]
  obtain ⟨leaves, -, words, -⟩ := slots_and_indices memory page 0x12345
  obtain ⟨-, -, -, indices⟩ := slots_and_indices memory page 0x10012345
  obtain ⟨apart, regions⟩ := indices true 0x12345 (by decide) (by decide)
  refine ⟨by decide, ?_, by decide, ?_, by decide, by decide, ?_, by decide, ?_⟩
  · have wrapped : entryAddress page (vpnIndex 0x12346 0) = 0xa30 := by decide
    rw [leaves 0x12346 (by decide), wrapped, word]
  · rw [words 0xa30 (by decide), word]
  · intro same
    exact absurd (apart.2 same) (by decide)
  · intro same
    exact absurd ((regions 0 (by decide)).1 same 0 (by decide)) (by decide)

end PageWalk
