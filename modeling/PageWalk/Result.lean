import PageWalk.Registers

/-!
# Results

A first-stage result carries a whole sector: the eight leaves of a block, or one
superpage or fault repeated eight times. A second-stage result carries one guest
page. A response pairs a lookup with either or both.
-/

namespace PageWalk

structure Slot where
  ppn : Word := 0
  permissions : Permissions := {}
  valid : Bool := false
  pageFault : Bool := false
  accessFault : Bool := false
deriving DecidableEq, Repr, Inhabited

/-- What a slot says about its page, by letters: valid, page fault, access fault. -/
def Slot.letters (slot : Slot) : String :=
  flagLetters [('v', slot.valid), ('p', slot.pageFault), ('a', slot.accessFault)]

/-! ## First stage -/

structure StageOneResult where
  tag : Word := 0
  asid : UInt16 := 0
  vmid : UInt16 := 0
  level : Nat := 0
  prefetch : Bool := false
  /-- The slots are eight different leaves. -/
  sectored : Bool := false
  index : Fin 8 := 0
  slots : Vector Slot 8 := Vector.replicate 8 {}
deriving DecidableEq, Repr

namespace StageOneResult

/-- The result of a lookup without a first stage. -/
def blank : StageOneResult := {}

instance : Inhabited StageOneResult := ⟨blank⟩

def selected (result : StageOneResult) : Slot :=
  result.slots[result.index]

def pageFault (result : StageOneResult) : Bool :=
  result.selected.pageFault

def accessFault (result : StageOneResult) : Bool :=
  result.selected.accessFault

/-- The 4 KiB page of `vpn`, with the bits that a superpage leaves open. -/
def translate (result : StageOneResult) (vpn : Word) : Word :=
  mergePage result.selected.ppn vpn result.level

/-- The slot of an entry that ended a walk with the given faults. -/
def slotOfPte (pte : Pte) (pageFault accessFault : Bool) : Slot where
  ppn := pte.ppn
  permissions := pte.permissions
  valid := !pageFault && !accessFault && pte.valid
  pageFault := pageFault
  accessFault := accessFault

/-- One entry, found at `level`, in every slot. -/
def ofPte (vpn : Word) (pte : Pte) (level : Nat) (pageFault accessFault : Bool)
    (asid vmid : UInt16) : StageOneResult where
  tag := sectorTag vpn
  asid := asid
  vmid := vmid
  level := level
  index := sectorIndex vpn
  slots := Vector.replicate 8 (slotOfPte pte pageFault accessFault)

/-- The slot of a leaf entry; an access fault hides a page fault. -/
def slotOfLeaf (mode : Mode) (addressBits : UInt32) (denied : Bool) (pte : Pte) : Slot :=
  let accessFault := denied || mode.accessFault pte addressBits
  let pageFault := !accessFault && pte.pageFaultAt leafLevel
  { ppn := pte.ppn
    permissions := pte.permissions
    valid := !accessFault && !pageFault
    pageFault := pageFault
    accessFault := accessFault }

/-- A block of leaf entries, one in each slot. -/
def ofBlock (vpn : Word) (block : Block) (denied : Bool) (mode : Mode) (addressBits : UInt32)
    (asid vmid : UInt16) : StageOneResult where
  tag := sectorTag vpn
  asid := asid
  vmid := vmid
  level := leafLevel
  sectored := true
  index := sectorIndex vpn
  slots := block.map fun word => slotOfLeaf mode addressBits denied ⟨word⟩

def invalidated (result : StageOneResult) : StageOneResult :=
  { result with slots := result.slots.map fun slot => { slot with valid := false } }

end StageOneResult

/-! ## Second stage -/

structure StageTwoResult where
  tag : Word := 0
  vmid : UInt16 := 0
  level : Nat := 0
  ppn : Word := 0
  permissions : Permissions := {}
  valid : Bool := false
  prefetch : Bool := false
  pageFault : Bool := false
  accessFault : Bool := false
deriving DecidableEq, Repr, Inhabited

namespace StageTwoResult

/-- Whether the guest page has no translation. -/
def fault (result : StageTwoResult) : Bool :=
  result.pageFault || result.accessFault

/-- The host page of the guest page that the result was walked for. -/
def hostPage (result : StageTwoResult) (gvpn : Word) : Word :=
  mergePage result.ppn gvpn result.level

/-- The result of an entry found at `level`. -/
def ofPte (gvpn : Word) (pte : Pte) (level : Nat) (pageFault accessFault : Bool)
    (vmid : UInt16) : StageTwoResult where
  tag := gvpn
  vmid := vmid
  level := level
  ppn := pte.ppn
  permissions := pte.permissions
  valid := !pageFault && !accessFault && pte.valid
  pageFault := pageFault
  accessFault := accessFault

end StageTwoResult

/-- The answer of the second-stage walker to the walker `id`. -/
structure StageTwoReply where
  id : Nat := 0
  result : StageTwoResult := {}
deriving DecidableEq, Repr, Inhabited

/-! ## Responses -/

structure Response where
  request : Request := {}
  stageOne : StageOneResult := .blank
  /-- The second-stage result, if the answer has one. -/
  stageTwo : Option StageTwoResult := none
  fromCache : Bool := false
deriving DecidableEq, Repr

instance : Inhabited Response := ⟨{}⟩

/-- The response under a given name of its mode. -/
def Response.textNamed (response : Response) (modeName : String) : String :=
  let slot := response.stageOne.selected
  let stageTwo := response.stageTwo.getD {}
  Format.render "%s level %u ppn %#llx pf %d af %d s2 %d gpf %d gaf %d%s"
    [.text (response.request.textNamed modeName), .ofNat response.stageOne.level,
      .integer slot.ppn, .ofBool slot.pageFault, .ofBool slot.accessFault,
      .ofBool response.stageTwo.isSome, .ofBool stageTwo.pageFault,
      .ofBool stageTwo.accessFault, .text (if response.fromCache then " (cache)" else "")]

def Response.text (response : Response) : String :=
  response.textNamed response.request.mode.name

end PageWalk
