import PageWalk.Params
import PageWalk.Result

/-!
# Cache lines

What the four storages of the page cache hold. Every line remembers the region, the
address space, the virtual machine and the mode that it was refilled under. Middle
and sector lines are protected by a code over the words of the line.
-/

namespace PageWalk

/-- What every line remembers about its refill. -/
structure LineTag where
  valid : Bool := false
  /-- The line serves every address space. -/
  global : Bool := false
  /-- The page-number bits that the line covers. -/
  region : Word := 0
  asid : UInt16 := 0
  vmid : UInt16 := 0
  mode : Mode := .direct
  prefetch : Bool := false
deriving DecidableEq, Repr, Inhabited

/-- Whether a line serves lookups of a mode under the present registers. -/
def LineTag.serves (tag : LineTag) (registers : Registers) (mode : Mode) : Bool :=
  let asidHit := mode == .stageTwo || tag.global || tag.asid == registers.asid mode
  let vmidHit := !mode.isGuest || tag.vmid == registers.vmid
  tag.valid && tag.mode == mode && asidHit && vmidHit

def LineTag.ofRefill (registers : Registers) (request : Request) (region : Word)
    (global : Bool) : LineTag where
  valid := true
  global := global
  region := region
  asid := registers.asid request.mode
  vmid := registers.vmid
  mode := request.mode
  prefetch := request.isPrefetch

/-! ## Pointers -/

/-- A pointer to a table: an entry found at level 0 or level 1. -/
structure PointerLine where
  tag : LineTag := {}
  ppn : Word := 0
  code : UInt8 := 0
deriving DecidableEq, Repr, Inhabited

def PointerLine.words (line : PointerLine) : List Word :=
  [line.tag.region, line.ppn]

def PointerLine.invalidate (line : PointerLine) : PointerLine :=
  { line with tag := { line.tag with valid := false } }

/-! ## Sectors -/

structure LeafSlot where
  ppn : Word := 0
  permissions : Permissions := {}
  valid : Bool := false
  accessFault : Bool := false
deriving DecidableEq, Repr, Inhabited

/-- The leaf that an entry makes under a mode. -/
def LeafSlot.ofPte (mode : Mode) (addressBits : UInt32) (pte : Pte) : LeafSlot :=
  let accessFault := mode.accessFault pte addressBits
  { ppn := pte.ppn
    permissions := pte.permissions
    valid := !accessFault && !pte.pageFaultAt leafLevel
    accessFault := accessFault }

/-- The slot of a result: a leaf that is neither valid nor out of range is a page
fault. -/
def LeafSlot.toSlot (leaf : LeafSlot) : Slot where
  ppn := leaf.ppn
  permissions := leaf.permissions
  valid := leaf.valid
  pageFault := !leaf.valid && !leaf.accessFault
  accessFault := leaf.accessFault

/-- The permissions as the flags of an entry. -/
def Permissions.flags (permissions : Permissions) : Word :=
  (if permissions.read then Pte.readBit else 0) |||
    (if permissions.write then Pte.writeBit else 0) |||
    (if permissions.execute then Pte.executeBit else 0) |||
    (if permissions.user then Pte.userBit else 0) |||
    (if permissions.global then Pte.globalBit else 0) |||
    (if permissions.accessed then Pte.accessedBit else 0) |||
    (if permissions.dirty then Pte.dirtyBit else 0)

/-- A leaf packed into one word. -/
def LeafSlot.word (leaf : LeafSlot) : Word :=
  leaf.ppn ||| (leaf.permissions.flags <<< ppnBits.toUInt64) |||
    ((if leaf.valid then 1 else 0 : Word) <<< 62) |||
    ((if leaf.accessFault then 1 else 0 : Word) <<< 63)

/-- A sector of eight leaves. -/
structure SectorLine where
  tag : LineTag := {}
  slots : Vector LeafSlot 8 := Vector.replicate 8 {}
  code : UInt8 := 0
deriving DecidableEq, Repr

instance : Inhabited SectorLine := ⟨{}⟩

def SectorLine.words (line : SectorLine) : List Word :=
  line.tag.region :: line.slots.toList.map LeafSlot.word

def SectorLine.invalidate (line : SectorLine) : SectorLine :=
  { line with tag := { line.tag with valid := false } }

/-! ## Superpages -/

/-- A superpage, or a page fault, found at level 0 or level 1. -/
structure SuperpageLine where
  tag : LineTag := {}
  level : Nat := 0
  ppn : Word := 0
  permissions : Permissions := {}
  /-- False for a page fault. -/
  translates : Bool := false
deriving DecidableEq, Repr, Inhabited

/-- The slot of a result, the same for every page of the region. -/
def SuperpageLine.toSlot (line : SuperpageLine) : Slot where
  ppn := line.ppn
  permissions := line.permissions
  valid := line.translates
  pageFault := !line.translates

def SuperpageLine.invalidate (line : SuperpageLine) : SuperpageLine :=
  { line with tag := { line.tag with valid := false } }

end PageWalk
