import Mathlib.Algebra.Group.Nat.Defs
import PageWalk.Memory

/-!
# Regions, sectors and blocks

A region names all the indices that a walk uses down to its level, so page numbers
of one region walk through the same entries. A sector is one memory block: reading
the block of one leaf entry reads the leaf entries of all page numbers of its
sector.
-/

namespace PageWalk

/-! ## Bit fields of words -/

/-- A word that is moved down by some bits is divided. -/
theorem toNat_shiftRight_eq_div
    (word : Word) {shift : Word} {bits : Nat} (count : shift.toNat % 64 = bits) :
    (word >>> shift).toNat = word.toNat / 2 ^ bits := by
  rw [UInt64.toNat_shiftRight, count, Nat.shiftRight_eq_div_pow]

/-- The lowest bits of a word are a remainder. -/
theorem toNat_and_eq_mod
    (word : Word) {mask : Word} {bits : Nat} (low : mask.toNat = 2 ^ bits - 1) :
    (word &&& mask).toNat = word.toNat % 2 ^ bits := by
  rw [UInt64.toNat_and, low, Nat.and_two_pow_sub_one_eq_mod]

/-- A word whose lowest bits are cleared is the next multiple below it. -/
theorem toNat_and_not
    (word : Word) {mask : Word} {bits : Nat} (low : mask.toNat = 2 ^ bits - 1) :
    (word &&& ~~~mask).toNat = word.toNat / 2 ^ bits * 2 ^ bits := by
  have below : word.toNat < 2 ^ 64 := word.toNat_lt
  have inverse : (~~~mask).toNat = 2 ^ 64 - (mask.toNat + 1) := by
    rw [UInt64.toNat_not, Nat.sub_sub, Nat.add_comm 1]
    rfl
  apply Nat.eq_of_testBit_eq
  intro bit
  rw [UInt64.toNat_and, inverse, Nat.testBit_and, Nat.testBit_two_pow_sub_succ mask.toNat_lt, low,
    Nat.testBit_two_pow_sub_one, Nat.testBit_mul_two_pow, Nat.testBit_div_two_pow]
  by_cases inside : bit < bits
  · simp [inside, Nat.not_le.2 inside]
  · have back : bit - bits + bits = bit := Nat.sub_add_cancel (Nat.not_lt.1 inside)
    have high (set : word.toNat.testBit bit = true) : bit < 64 :=
      Nat.lt_of_not_le fun wide => by
        have bounded : word.toNat < 2 ^ bit :=
          Nat.lt_of_lt_of_le below (Nat.pow_le_pow_right (by decide) wide)
        rw [Nat.testBit_lt_two_pow bounded] at set
        cases set
    simpa [inside, Nat.not_lt.1 inside, back] using high

/-! ## Regions -/

private theorem shiftRight_shiftRight
    (word first second : Word) (small : first.toNat + second.toNat < 64) :
    (word >>> first) >>> second = word >>> (first + second) := by
  apply UInt64.toNat_inj.1
  have total : (first + second).toNat % 64 = first.toNat % 64 + second.toNat % 64 := by
    rw [UInt64.toNat_add]
    omega
  simp only [UInt64.toNat_shiftRight, total, Nat.shiftRight_add]

/-- Page numbers of one region lie in one region of the level above. -/
theorem regionTag_eq_of_succ
    {vpn other : Word} {level : Nat}
    (upper : level < leafLevel)
    (same : regionTag vpn (level + 1) = regionTag other (level + 1)) :
    regionTag vpn level = regionTag other level := by
  have bound : level = 0 ∨ level = 1 := by
    unfold leafLevel at upper
    omega
  have step (word : Word) :
      regionTag word level = regionTag word (level + 1) >>> 9 := by
    rcases bound with rfl | rfl
    · exact (shiftRight_shiftRight word 9 9 (by decide)).symm
    · exact (shiftRight_shiftRight word 0 9 (by decide)).symm
  rw [step vpn, step other, same]

/-- Page numbers of one sector lie in one region of every pointer. -/
theorem regionTag_one_eq_of_sectorTag
    {vpn other : Word} (same : sectorTag vpn = sectorTag other) :
    regionTag vpn 1 = regionTag other 1 := by
  have step (word : Word) : regionTag word 1 = sectorTag word >>> 6 :=
    (shiftRight_shiftRight word 3 6 (by decide)).symm
  rw [step vpn, step other, same]

/-- Page numbers of one root region are equally wide. -/
theorem guestWidth_eq_of_regionTag
    {vpn other : Word} (same : regionTag vpn 0 = regionTag other 0) :
    vpn >>> guestVpnBits.toUInt64 = other >>> guestVpnBits.toUInt64 := by
  have step (word : Word) :
      word >>> guestVpnBits.toUInt64 = regionTag word 0 >>> 11 :=
    (shiftRight_shiftRight word 18 11 (by decide)).symm
  rw [step vpn, step other, same]

/-! ## Regions as intervals -/

/-- A page number lies in a region whose page numbers differ in their low `bits` bits. -/
def InRegion (vpn region : Word) (bits : Nat) : Prop :=
  region.toNat * 2 ^ bits ≤ vpn.toNat ∧ vpn.toNat < (region.toNat + 1) * 2 ^ bits

instance (vpn region : Word) (bits : Nat) : Decidable (InRegion vpn region bits) :=
  inferInstanceAs (Decidable (_ ∧ _))

/-- The low page-number bits in which the page numbers of one region differ. -/
def openBits (level : Nat) : Nat :=
  (levelShift level).toNat % 64

theorem openBits_of_le {level : Nat} (bound : level ≤ leafLevel) :
    openBits level = indexBits.toNat * (leafLevel - level) := by
  have cases : level = 0 ∨ level = 1 ∨ level = 2 := by
    unfold leafLevel at bound
    omega
  rcases cases with rfl | rfl | rfl <;> rfl

private theorem shiftRight_eq_iff (vpn region shift : Word) :
    vpn >>> shift = region ↔ InRegion vpn region (shift.toNat % 64) := by
  have number : (vpn >>> shift).toNat = vpn.toNat / 2 ^ (shift.toNat % 64) :=
    toNat_shiftRight_eq_div vpn rfl
  have positive : 0 < 2 ^ (shift.toNat % 64) := Nat.two_pow_pos _
  rw [← UInt64.toNat_inj, number, Nat.div_eq_iff positive]
  unfold InRegion
  rw [Nat.succ_mul]
  generalize 2 ^ (shift.toNat % 64) = width at positive ⊢
  omega

theorem regionTag_eq_iff (vpn region : Word) (level : Nat) :
    regionTag vpn level = region ↔ InRegion vpn region (openBits level) :=
  shiftRight_eq_iff vpn region (levelShift level).toUInt64

theorem sectorTag_eq_iff (vpn region : Word) :
    sectorTag vpn = region ↔ InRegion vpn region 3 :=
  shiftRight_eq_iff vpn region 3

/-! ## Virtual addresses -/

/-- A virtual address of Sv39: the bits above bit 38 are equal to it. -/
def IsCanonical (address : Word) : Prop :=
  ∀ bit < 64, 38 < bit → address.toNat.testBit bit = address.toNat.testBit 38

instance (address : Word) : Decidable (IsCanonical address) :=
  inferInstanceAs (Decidable
    (∀ bit < 64, 38 < bit → address.toNat.testBit bit = address.toNat.testBit 38))

/-- The half of the address space that kernels live in. -/
def IsUpperHalf (address : Word) : Prop :=
  address.toNat.testBit 38 = true

instance (address : Word) : Decidable (IsUpperHalf address) :=
  inferInstanceAs (Decidable (address.toNat.testBit 38 = true))

/-- The page number of a virtual address, which a lookup carries: bits 38 to 12. -/
def virtualPage (address : Word) : Word :=
  bitSlice address 12 38

private theorem toNat_pageNumber (address : Word) :
    (address >>> 12).toNat = address.toNat / 4096 :=
  toNat_shiftRight_eq_div address (by decide : _ = 12)

private theorem toNat_virtualPage (address : Word) :
    (virtualPage address).toNat = address.toNat % 2 ^ 39 / 4096 := by
  have sliced : virtualPage address = (address &&& 0x7fffffffff) >>> 12 := rfl
  rw [sliced, toNat_pageNumber, toNat_and_eq_mod address (by decide : _ = 2 ^ 39 - 1)]

/-- In the lower half the page number that is left of the whole address is the one that
lookups carry. -/
theorem pageNumber_eq_virtualPage
    {address : Word} (canonical : IsCanonical address) (lower : ¬ IsUpperHalf address) :
    address >>> 12 = virtualPage address := by
  have low : address.toNat.testBit 38 = false := Bool.eq_false_iff.2 lower
  have small : address.toNat < 2 ^ 38 := by
    refine Nat.lt_pow_two_of_testBit _ fun bit above => ?_
    by_cases first : bit = 38
    · rw [first, low]
    · by_cases inside : bit < 64
      · rw [canonical bit inside (by omega), low]
      · refine Nat.testBit_lt_two_pow (Nat.lt_of_lt_of_le address.toNat_lt ?_)
        exact Nat.pow_le_pow_right (by decide) (by omega)
  apply UInt64.toNat_inj.1
  rw [toNat_pageNumber, toNat_virtualPage, Nat.mod_eq_of_lt (Nat.lt_trans small (by decide))]

/-- In the upper half the page number that is left of the whole address is wider than any
that a lookup carries. -/
theorem le_pageNumber
    {address : Word} (canonical : IsCanonical address) (upper : IsUpperHalf address) :
    2 ^ 27 ≤ (address >>> 12).toNat := by
  have next : address.toNat.testBit 39 = true := by
    rw [canonical 39 (by decide) (by decide)]
    exact upper
  have large : 2 ^ 39 ≤ address.toNat := Nat.ge_two_pow_of_testBit next
  rw [toNat_pageNumber]
  omega

/-- The page numbers of a region lie below `2 ^ 27` together. -/
theorem InRegion.lt
    {vpn region : Word} {bits : Nat} (inside : InRegion vpn region bits) (narrow : bits ≤ 27)
    {other : Word} (otherInside : InRegion other region bits) (bound : other.toNat < 2 ^ 27) :
    vpn.toNat < 2 ^ 27 := by
  obtain ⟨rest, equal⟩ : ∃ rest, 2 ^ 27 = rest * 2 ^ bits :=
    ⟨2 ^ (27 - bits), by rw [← Nat.pow_add, Nat.sub_add_cancel narrow]⟩
  have below : region.toNat < rest := by
    refine Nat.lt_of_mul_lt_mul_right (a := 2 ^ bits) ?_
    exact equal ▸ Nat.lt_of_le_of_lt otherInside.1 bound
  calc vpn.toNat
      < (region.toNat + 1) * 2 ^ bits := inside.2
    _ ≤ rest * 2 ^ bits := Nat.mul_le_mul_right _ below
    _ = 2 ^ 27 := equal.symm

/-! ## Table indices -/

/-- The bits of a region that index the table of its level. -/
def indexMask (guest : Bool) (level : Nat) : Word :=
  if guest && level == 0 then 0x7ff else 0x1ff

theorem tableIndex_eq_regionTag
    (guest : Bool) (vpn : Word) {level : Nat} (bound : level ≤ leafLevel) :
    tableIndex guest vpn level = regionTag vpn level &&& indexMask guest level := by
  have cases : level = 0 ∨ level = 1 ∨ level = 2 := by
    unfold leafLevel at bound
    omega
  have distributes (mask shift : Word) :
      (vpn &&& mask) >>> shift = vpn >>> shift &&& mask >>> shift :=
    UInt64.shiftRight_and
  rcases cases with rfl | rfl | rfl <;> cases guest
  · exact distributes 0x7ffffff 18
  · exact distributes 0x1fffffff 18
  · exact distributes 0x3ffff 9
  · exact distributes 0x3ffff 9
  · exact distributes 0x1ff 0
  · exact distributes 0x1ff 0

/-- Page numbers of one region use the same entry of its table. -/
theorem tableIndex_eq_of_regionTag
    (guest : Bool) {vpn other : Word} {level : Nat} (bound : level ≤ leafLevel)
    (same : regionTag vpn level = regionTag other level) :
    tableIndex guest vpn level = tableIndex guest other level := by
  rw [tableIndex_eq_regionTag guest vpn bound, tableIndex_eq_regionTag guest other bound, same]

theorem tableIndex_leafLevel (guest : Bool) (vpn : Word) :
    tableIndex guest vpn leafLevel = vpnIndex vpn 0 := by
  cases guest <;> rfl

private theorem toNat_vpnIndex_zero (vpn : Word) :
    (vpnIndex vpn 0).toNat = vpn.toNat % 512 := by
  have masked : vpnIndex vpn 0 = vpn &&& 0x1ff := UInt64.shiftRight_zero
  rw [masked]
  exact toNat_and_eq_mod vpn (by decide : _ = 2 ^ 9 - 1)

/-! ## Blocks -/

private theorem toNat_blockAddress (address : Word) :
    (Memory.blockAddress address).toNat = address.toNat / 64 * 64 :=
  toNat_and_not address (by decide : _ = 2 ^ 6 - 1)

/-- Addresses of one block differ only below the size of a block. -/
theorem toNat_div_eq_of_blockAddress
    {address other : Word} (same : Memory.blockAddress address = Memory.blockAddress other) :
    address.toNat / 64 = other.toNat / 64 := by
  have numbers := congrArg UInt64.toNat same
  rw [toNat_blockAddress, toNat_blockAddress] at numbers
  omega

theorem toNat_entryAddress (page index : Word) :
    (entryAddress page index).toNat =
      (page.toNat * 4096 + index.toNat * 8) % 18446744073709551616 := by
  have offset : pageOffsetBits.toUInt64.toNat % 64 = 12 := by decide
  have width : (8 : Word).toNat = 8 := by decide
  unfold entryAddress
  rw [UInt64.toNat_add, UInt64.toNat_mul, UInt64.toNat_shiftLeft, offset, width,
    Nat.shiftLeft_eq]
  omega

/-- Entries lie at multiples of eight. -/
theorem entryAddress_aligned (page index : Word) : entryAddress page index % 8 = 0 := by
  apply UInt64.toNat_inj.1
  rw [UInt64.toNat_mod, toNat_entryAddress]
  change (page.toNat * 4096 + index.toNat * 8) % 18446744073709551616 % 8 = 0
  omega

/-- The block of an address holds the word of the address, if that is a multiple of eight. -/
theorem entryAt_readBlock_of_aligned
    (memory : Memory) {address : Word} (aligned : address % 8 = 0) :
    entryAt (memory.readBlock address) address = memory.readWord address := by
  have width : (8 : Word).toNat = 8 := by decide
  have multiple : address.toNat % 8 = 0 := by
    have number := congrArg UInt64.toNat aligned
    rwa [UInt64.toNat_mod, width] at number
  have bound : address.toNat < 2 ^ 64 := address.toNat_lt
  have place :
      Memory.blockAddress address + UInt64.ofNat (blockIndex address).val * 8 = address := by
    apply UInt64.toNat_inj.1
    rw [UInt64.toNat_add, UInt64.toNat_mul, toNat_blockAddress, width, UInt64.toNat_ofNat']
    simp only [blockIndex]
    omega
  rw [entryAt, Memory.readBlock, Fin.getElem_fin, Vector.getElem_ofFn, place]

/-- The block of an entry holds the entry. -/
theorem entryAt_readBlock (memory : Memory) (page index : Word) :
    entryAt (memory.readBlock (entryAddress page index)) (entryAddress page index) =
      memory.readWord (entryAddress page index) :=
  entryAt_readBlock_of_aligned memory (entryAddress_aligned page index)

private theorem toNat_sectorTag (vpn : Word) : (sectorTag vpn).toNat = vpn.toNat / 8 :=
  toNat_shiftRight_eq_div vpn (by decide : _ = 3)

/-- The slot of a leaf in its sector is the slot of its entry in its block. -/
theorem blockIndex_entryAddress (page vpn : Word) :
    blockIndex (entryAddress page (vpnIndex vpn 0)) = sectorIndex vpn := by
  apply Fin.ext
  simp only [sectorIndex, blockIndex, toNat_entryAddress, toNat_vpnIndex_zero]
  omega

theorem leafAt_eq_entryAt (block : Block) (page vpn : Word) :
    leafAt block vpn = entryAt block (entryAddress page (vpnIndex vpn 0)) :=
  congrArg (fun slot : Fin 8 => block[slot]) (blockIndex_entryAddress page vpn).symm

/-- The leaf entries of page numbers of one sector lie in one block. -/
theorem blockAddress_eq_of_sectorTag
    (page : Word) {vpn other : Word} (same : sectorTag vpn = sectorTag other) :
    Memory.blockAddress (entryAddress page (vpnIndex vpn 0)) =
      Memory.blockAddress (entryAddress page (vpnIndex other 0)) := by
  have quotients : vpn.toNat / 8 = other.toNat / 8 := by
    rw [← toNat_sectorTag, ← toNat_sectorTag, same]
  apply UInt64.toNat_inj.1
  rw [toNat_blockAddress, toNat_blockAddress, toNat_entryAddress, toNat_entryAddress,
    toNat_vpnIndex_zero, toNat_vpnIndex_zero]
  omega

/-- Page numbers of one sector read the same block. -/
theorem readBlock_eq_of_sectorTag
    (memory : Memory) (page : Word) {vpn other : Word}
    (same : sectorTag vpn = sectorTag other) :
    memory.readBlock (entryAddress page (vpnIndex vpn 0)) =
      memory.readBlock (entryAddress page (vpnIndex other 0)) := by
  unfold Memory.readBlock
  rw [blockAddress_eq_of_sectorTag page same]

/-- The block that is read for a leaf entry holds the leaf entries of its whole sector. -/
theorem leafAt_readBlock_of_sectorTag
    (memory : Memory) (page : Word) {vpn other : Word}
    (same : sectorTag other = sectorTag vpn) :
    leafAt (memory.readBlock (entryAddress page (vpnIndex vpn 0))) other =
      memory.readWord (entryAddress page (vpnIndex other 0)) := by
  rw [readBlock_eq_of_sectorTag memory page same.symm, leafAt_eq_entryAt _ page,
    entryAt_readBlock]

end PageWalk
