import PageWalk.Request

/-!
# Translation registers and fences

Three registers hold the roots of the page tables: `satp` of the host, `vsatp` of
the guest's first stage and `hgatp` of the second stage. A fence names the cached
translations that have to go.
-/

namespace PageWalk

/-- The root of one page table: its table page, and the address space (or the
virtual machine) that its translations belong to. -/
structure TableRoot where
  space : UInt16 := 0
  ppn : Word := 0
  /-- The register was just written with another value. -/
  changed : Bool := false
deriving DecidableEq, Repr, Inhabited

structure Registers where
  satp : TableRoot := {}
  vsatp : TableRoot := {}
  hgatp : TableRoot := {}
  /-- A guest is running. -/
  virtual : Bool := false
deriving DecidableEq, Repr, Inhabited

def Registers.changed (registers : Registers) : Bool :=
  registers.satp.changed || registers.vsatp.changed || registers.hgatp.changed

/-- The registers with no change left to report. -/
def Registers.settled (registers : Registers) : Registers :=
  { registers with
    satp := { registers.satp with changed := false }
    vsatp := { registers.vsatp with changed := false }
    hgatp := { registers.hgatp with changed := false } }

/-- The root of the first stage under a mode. -/
def Registers.stageOneRoot (registers : Registers) (mode : Mode) : TableRoot :=
  if mode.isGuest then registers.vsatp else registers.satp

/-- The address space of the first stage under a mode. -/
def Registers.asid (registers : Registers) (mode : Mode) : UInt16 :=
  (registers.stageOneRoot mode).space

def Registers.vmid (registers : Registers) : UInt16 :=
  registers.hgatp.space

/-! ## Partial writes -/

/-- A write of some fields of one root. -/
structure RootWrite where
  space : Option UInt16 := none
  ppn : Option Word := none
  changed : Bool := false
deriving DecidableEq, Repr, Inhabited

/-- The root after a write: fields that are not written stay as they are. -/
def RootWrite.apply (write : RootWrite) (root : TableRoot) : TableRoot where
  space := write.space.getD root.space
  ppn := write.ppn.getD root.ppn
  changed := write.changed

structure RegistersWrite where
  satp : Option RootWrite := none
  vsatp : Option RootWrite := none
  hgatp : Option RootWrite := none
  virtual : Option Bool := none
deriving DecidableEq, Repr, Inhabited

def RegistersWrite.root (write : Option RootWrite) (root : TableRoot) : TableRoot :=
  match write with
  | some write => write.apply root
  | none => root

def RegistersWrite.apply (write : RegistersWrite) (registers : Registers) : Registers where
  satp := RegistersWrite.root write.satp registers.satp
  vsatp := RegistersWrite.root write.vsatp registers.vsatp
  hgatp := RegistersWrite.root write.hgatp registers.hgatp
  virtual := write.virtual.getD registers.virtual

/-! ## Fences -/

/-- An invalidation of cached translations. -/
structure Fence where
  /-- Every address instead of `address`. -/
  everyAddress : Bool := true
  /-- Every address space (or virtual machine) instead of `identifier`. -/
  everyIdentifier : Bool := true
  address : Word := 0
  identifier : UInt16 := 0
  /-- Guest virtual translations of the virtual machine that is running. -/
  guestVirtual : Bool := false
  /-- Guest physical translations. -/
  guestPhysical : Bool := false
deriving DecidableEq, Repr, Inhabited

/-- The page number that a fence names. -/
def Fence.vpn (fence : Fence) : Word :=
  fence.address >>> pageOffsetBits.toUInt64

end PageWalk
