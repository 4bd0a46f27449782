import PageWalk.Word

/-!
# Sv39 and Sv39x4 geometry

A virtual page number has three 9-bit indices, one for each level of the page
table; level 0 is the root (1 GiB regions), level 1 maps 2 MiB regions and level
2 holds the 4 KiB leaves. A guest page number has two more bits in its root
index. Memory is read in 64-byte blocks, so eight neighbouring leaf entries, a
sector, always arrive together.
-/

namespace PageWalk

/-- Bits of an address below the page number. -/
def pageOffsetBits : UInt32 := 12

def indexBits : UInt32 := 9

def vpnBits : UInt32 := 27

/-- Bits of a guest page number: the root index of Sv39x4 is two bits wider. -/
def guestVpnBits : UInt32 := 29

/-- Bits of the page number field of an entry. -/
def ppnBits : UInt32 := 44

def leafLevel : Nat := 2

/-- One memory block: the eight entries of a sector. -/
abbrev Block := Vector Word 8

/-! ## Indices -/

/-- The 9-bit index of a page number at a position, position 2 being the root. -/
def vpnIndex (vpn : Word) (position : UInt32) : Word :=
  bitSlice vpn (indexBits * position) (indexBits * (position + 1) - 1)

/-- The index of a guest page number; its root index takes 11 bits. -/
def guestVpnIndex (gvpn : Word) (position : UInt32) : Word :=
  if position = 2 then
    bitSlice gvpn (indexBits * 2) (guestVpnBits - 1)
  else
    vpnIndex gvpn position

/-- The position of the index that a level of the walk uses. -/
def levelPosition (level : Nat) : UInt32 :=
  2 - UInt32.ofNat level

/-- The table index of a page number at a level, for either stage. -/
def tableIndex (guest : Bool) (vpn : Word) (level : Nat) : Word :=
  if guest then
    guestVpnIndex vpn (levelPosition level)
  else
    vpnIndex vpn (levelPosition level)

/-- The address of the entry at `index` of the table page `ppn`. -/
def entryAddress (ppn index : Word) : Word :=
  (ppn <<< pageOffsetBits.toUInt64) + index * 8

/-! ## Regions -/

/-- The low page-number bits that an entry of a level does not translate. -/
def levelShift (level : Nat) : UInt32 :=
  indexBits * levelPosition level

/-- The page-number bits that name the region of an entry of a level. -/
def regionTag (vpn : Word) (level : Nat) : Word :=
  vpn >>> (levelShift level).toUInt64

/-- The page-number bits that name a sector. -/
def sectorTag (vpn : Word) : Word :=
  vpn >>> 3

/-- The slot of a page number inside its sector. -/
def sectorIndex (vpn : Word) : Fin 8 :=
  ⟨vpn.toNat % 8, Nat.mod_lt _ (by decide)⟩

/-- The slot of an entry address inside its memory block. -/
def blockIndex (address : Word) : Fin 8 :=
  ⟨address.toNat / 8 % 8, Nat.mod_lt _ (by decide)⟩

/-- The entry that a block holds for an entry address. -/
def entryAt (block : Block) (address : Word) : Word :=
  block[blockIndex address]

/-- The leaf entry that a sector holds for a page number. -/
def leafAt (block : Block) (vpn : Word) : Word :=
  block[sectorIndex vpn]

/-- The 4 KiB page of `vpn` inside the page `ppn` of a level: the bits that the
entry does not translate come from `vpn`. -/
def mergePage (ppn vpn : Word) (level : Nat) : Word :=
  let shift := levelShift level
  if shift = 0 then
    ppn
  else
    ((ppn >>> shift.toUInt64) <<< shift.toUInt64) ||| (vpn &&& lowMask shift)

/-! ## Requests of the prefetcher -/

/-- Requests from this source are prefetches. -/
def prefetchSource : UInt8 := 2

def isPrefetchSource (source : UInt8) : Bool :=
  source == prefetchSource

end PageWalk
