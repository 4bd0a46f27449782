import PageWalk.Params
import PageWalk.Registers

/-!
# Trace messages

A trace is a header and a list of records. The header overrides parameters and gives
the first registers; a record stores a word of memory or names an operation and the
step at which it is applied. Identifiers are 32 bits wide in a trace and narrower in
the registers.
-/

namespace PageWalk.Trace

structure ParamsMessage where
  rootSize : Option UInt32 := none
  middleSets : Option UInt32 := none
  middleWays : Option UInt32 := none
  sectorSets : Option UInt32 := none
  sectorWays : Option UInt32 := none
  superpageSize : Option UInt32 := none
  rootPolicy : Option String := none
  middlePolicy : Option String := none
  sectorPolicy : Option String := none
  superpagePolicy : Option String := none
  code : Option String := none
  singlePort : Option Bool := none
  leafWalkerSize : Option UInt32 := none
  missQueueSize : Option UInt32 := none
  addressBits : Option UInt32 := none
  timeoutThreshold : Option Word := none
  memoryLatency : Option Word := none
deriving DecidableEq, Repr, Inhabited

def ParamsMessage.apply (message : ParamsMessage) (params : Params) : Params where
  name := params.name
  rootSize := message.rootSize.getD params.rootSize
  middleSets := message.middleSets.getD params.middleSets
  middleWays := message.middleWays.getD params.middleWays
  sectorSets := message.sectorSets.getD params.sectorSets
  sectorWays := message.sectorWays.getD params.sectorWays
  superpageSize := message.superpageSize.getD params.superpageSize
  rootPolicy := message.rootPolicy.getD params.rootPolicy
  middlePolicy := message.middlePolicy.getD params.middlePolicy
  sectorPolicy := message.sectorPolicy.getD params.sectorPolicy
  superpagePolicy := message.superpagePolicy.getD params.superpagePolicy
  code := message.code.getD params.code
  singlePort := message.singlePort.getD params.singlePort
  leafWalkerSize := message.leafWalkerSize.getD params.leafWalkerSize
  missQueueSize := message.missQueueSize.getD params.missQueueSize
  addressBits := message.addressBits.getD params.addressBits
  timeoutThreshold := message.timeoutThreshold.getD params.timeoutThreshold
  memoryLatency := message.memoryLatency.getD params.memoryLatency

structure RootMessage where
  id : UInt32 := 0
  ppn : Word := 0
deriving DecidableEq, Repr, Inhabited

/-- The root of a trace; it counts as changed if it differs from the present one. -/
def RootMessage.toRoot (message : RootMessage) (present : TableRoot) : TableRoot :=
  let space := message.id.toUInt16
  { space := space
    ppn := message.ppn
    changed := space != present.space || message.ppn != present.ppn }

structure RegistersMessage where
  satp : RootMessage := {}
  vsatp : RootMessage := {}
  hgatp : RootMessage := {}
  virtual : Bool := false
deriving DecidableEq, Repr, Inhabited

/-- The registers of a trace, with their changes against the present ones. -/
def RegistersMessage.toRegisters (message : RegistersMessage) (present : Registers) :
    Registers where
  satp := message.satp.toRoot present.satp
  vsatp := message.vsatp.toRoot present.vsatp
  hgatp := message.hgatp.toRoot present.hgatp
  virtual := message.virtual

structure Header where
  name : Option String := none
  params : ParamsMessage := {}
  registers : RegistersMessage := {}
deriving DecidableEq, Repr, Inhabited

def Header.toParams (header : Header) : Params :=
  header.params.apply { name := header.name.getD "l2tlb" }

structure LookupMessage where
  vpn : Word := 0
  source : UInt32 := 0
  mode : Mode := .direct
deriving DecidableEq, Repr, Inhabited

/-- The page-number bits that lookups of a mode may have. -/
def lookupBits (mode : Mode) : UInt32 :=
  if mode = .stageTwo then guestVpnBits else vpnBits

/-- The lookup of a trace, whose page number must not be too wide. -/
def LookupMessage.toRequest (message : LookupMessage) : Except Fault Request :=
  let bits := lookupBits message.mode
  if message.vpn >>> bits.toUInt64 != 0 then
    .error (.wideLookup message.vpn bits)
  else
    .ok { vpn := message.vpn, source := message.source.toUInt8, mode := message.mode }

structure FenceMessage where
  everyAddress : Bool := true
  everyIdentifier : Bool := true
  address : Word := 0
  id : UInt32 := 0
  guestVirtual : Bool := false
  guestPhysical : Bool := false
deriving DecidableEq, Repr, Inhabited

/-- The fence of a trace, which must not be of both guest kinds. -/
def FenceMessage.toFence (message : FenceMessage) : Except Fault Fence :=
  if message.guestVirtual && message.guestPhysical then
    .error .bothGuestFences
  else
    .ok
      { everyAddress := message.everyAddress
        everyIdentifier := message.everyIdentifier
        address := message.address
        identifier := message.id.toUInt16
        guestVirtual := message.guestVirtual
        guestPhysical := message.guestPhysical }

inductive Action
  | lookup (message : LookupMessage)
  | fence (message : FenceMessage)
  | registers (message : RegistersMessage)
deriving DecidableEq, Repr

/-- An operation and the step at which it is applied. -/
structure Operation where
  step : Word
  action : Action
deriving DecidableEq, Repr

structure WordMessage where
  address : Word
  data : Word
deriving DecidableEq, Repr

/-- One record of a trace. An operation may lack its action, and a record its
content. -/
inductive Record
  | word (message : WordMessage)
  | operation (step : Word) (action : Option Action)
  | empty
deriving DecidableEq, Repr

end PageWalk.Trace
