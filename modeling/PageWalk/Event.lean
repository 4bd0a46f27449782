import PageWalk.Result

/-!
# Events

What the units of the walk report about themselves. Most events are only shown
when the debug flag of their unit is on; a few are warnings. `Event.text` holds
all of their wording.
-/

namespace PageWalk

open Format (render)
open Format.Argument (integer text ofNat ofBool)

inductive MemoryEvent
  | accepted (request : MemoryRequest) (ready : Word)
  | answered (id : Nat)
deriving DecidableEq, Repr

inductive CacheEvent
  | accepted (request : Request) (first probe : Bool) (id : Nat)
  | checked (request : Request) (root middle sector superpage corrupted : Bool)
  | responded (request : Request) (hit bypassed root middle : Bool) (ppn : Word)
  | droppedInFlush (request : Request) (level : Nat)
  | droppedForAccessFault (request : Request) (level : Nat) (pte : Pte)
  | rootRefilled (request : Request) (way : UInt32) (pte : Pte)
  | middleRefilled (request : Request) (set way : UInt32) (pte : Pte)
  | sectorRefilled (request : Request) (set way : UInt32) (global : Bool)
  | superpageRefilled (request : Request) (level : Nat) (way : UInt32) (pte : Pte)
  | fenced (fence : Fence) (cleared : Nat)
  | middleCorrupted (set : UInt32) (way : Nat)
  | sectorCorrupted (set : UInt32) (way : Nat)
deriving DecidableEq, Repr

inductive StageTwoEvent
  | accepted (request : StageTwoRequest) (level : Nat) (ppn : Word)
  | read (level : Nat) (pte : Pte)
  | finished (id : Nat) (gvpn : Word) (level : Nat) (ppn : Word) (pageFault accessFault : Bool)
  | denied (address : Word)
  | overdue (gvpn : Word) (steps : Word)
deriving DecidableEq, Repr

inductive UpperEvent
  | acceptedStageTwo (request : Request)
  | accepted (request : Request) (level : Nat) (ppn : Word)
  | read (level : Nat) (pte : Pte)
  | finishedStageTwo (response : Response)
  | finished (response : Response)
  | dispatched (request : Request) (ppn : Word)
  | denied (address : Word)
  | overdue (request : Request) (steps : Word)
deriving DecidableEq, Repr

inductive LeafEvent
  | copied (entry : Nat) (request : Request) (sibling : Nat)
  | joined (entry : Nat) (request : Request) (owner : Nat)
  | droppedPrefetch (request : Request) (sibling : Nat)
  | accepted (entry : Nat) (request : Request) (ppn : Word)
  | reading (entry : Nat) (request : Request)
  | arrived (request : Request) (entry : Nat)
  | askedStageTwo (entry : Nat)
  | finished (entry : Nat) (request : Request)
  | denied (entry : Nat) (address : Word)
  | overdue (entry : Nat) (request : Request) (steps : Word)
deriving DecidableEq, Repr

inductive TlbEvent
  | accepted (request : Request)
  | registersChanged
  | droppedBlock (id : Nat)
  | deliveredStageTwo (id : Nat) (result : StageTwoResult)
  | parked (request : Request)
  | respondedFromCache (response : Response)
  | respondedFromUpper (response : Response)
  | respondedFromLeaf (response : Response)
  | reading (request : MemoryRequest)
deriving DecidableEq, Repr

inductive Event
  | memory (event : MemoryEvent)
  | cache (event : CacheEvent)
  | stageTwo (event : StageTwoEvent)
  | upper (event : UpperEvent)
  | leaf (event : LeafEvent)
  | tlb (event : TlbEvent)
deriving DecidableEq, Repr

/-! ## Wording -/

def MemoryEvent.text : MemoryEvent → String
  | .accepted request ready =>
      render "Req addr %#x id %u ready at %llu.\n"
        [integer request.address, ofNat request.id, integer ready]
  | .answered id => render "Resp id %u.\n" [ofNat id]

/-- The wording of a cache event; `unit` is the cache's name. -/
def CacheEvent.text (unit : String) : CacheEvent → String
  | .accepted request first probe id =>
      render "Req %s first %d hptw %d id %u.\n"
        [.text request.text, ofBool first, ofBool probe, ofNat id]
  | .checked request root middle sector superpage corrupted =>
      render "Check %s l1 %d l2 %d l3 %d sp %d ecc %d.\n"
        [.text request.text, ofBool root, ofBool middle, ofBool sector, ofBool superpage,
          ofBool corrupted]
  | .responded request hit bypassed root middle ppn =>
      render "Resp %s hit %d bypassed %d l1 %d l2 %d ppn %#x.\n"
        [.text request.text, ofBool hit, ofBool bypassed, ofBool root, ofBool middle,
          integer ppn]
  | .droppedInFlush request level =>
      render "Drop refill %s level %u under flush.\n" [.text request.text, ofNat level]
  | .droppedForAccessFault request level pte =>
      render "Drop refill %s level %u with %s: access fault.\n"
        [.text request.text, ofNat level, .text pte.text]
  | .rootRefilled request way pte =>
      render "L1 refill %s way %u %s.\n"
        [.text request.text, integer way.toUInt64, .text pte.text]
  | .middleRefilled request set way pte =>
      render "L2 refill %s set %u way %u %s.\n"
        [.text request.text, integer set.toUInt64, integer way.toUInt64, .text pte.text]
  | .sectorRefilled request set way global =>
      render "L3 refill %s set %u way %u global %d.\n"
        [.text request.text, integer set.toUInt64, integer way.toUInt64, ofBool global]
  | .superpageRefilled request level way pte =>
      render "SP refill %s level %u way %u %s.\n"
        [.text request.text, ofNat level, integer way.toUInt64, .text pte.text]
  | .fenced fence cleared =>
      render "Sfence allAddr %d allIds %d addr %#x id %u hv %d hg %d cleared %u.\n"
        [ofBool fence.everyAddress, ofBool fence.everyIdentifier, integer fence.address,
          integer fence.identifier.toUInt64, ofBool fence.guestVirtual,
          ofBool fence.guestPhysical, ofNat cleared]
  | .middleCorrupted set way =>
      render "%s: ecc error in L2 set %u way %d, flush the set."
        [.text unit, integer set.toUInt64, ofNat way]
  | .sectorCorrupted set way =>
      render "%s: ecc error in L3 set %u way %d, flush the set."
        [.text unit, integer set.toUInt64, ofNat way]

def StageTwoEvent.text (unit : String) : StageTwoEvent → String
  | .accepted request level ppn =>
      render "Req id %u gvpn %#x start level %u ppn %#x.\n"
        [ofNat request.id, integer request.gvpn, ofNat level, integer ppn]
  | .read level pte => render "Level %u %s.\n" [ofNat level, .text pte.text]
  | .finished id gvpn level ppn pageFault accessFault =>
      render "Done id %u gvpn %#x level %u ppn %#x gpf %d gaf %d.\n"
        [ofNat id, integer gvpn, ofNat level, integer ppn, ofBool pageFault,
          ofBool accessFault]
  | .denied address => render "Pmp denies %#x.\n" [integer address]
  | .overdue gvpn steps =>
      render "%s: walk of gvpn %#x busy for %llu steps."
        [.text unit, integer gvpn, integer steps]

def UpperEvent.text (unit : String) : UpperEvent → String
  | .acceptedStageTwo request => render "Req %s stage-2 only.\n" [.text request.text]
  | .accepted request level ppn =>
      render "Req %s start level %u ppn %#x.\n"
        [.text request.text, ofNat level, integer ppn]
  | .read level pte => render "Level %u %s.\n" [ofNat level, .text pte.text]
  | .finishedStageTwo response => render "Stage-2 only done %s.\n" [.text response.text]
  | .finished response => render "Done %s.\n" [.text response.text]
  | .dispatched request ppn =>
      render "Dispatch %s ppn %#x.\n" [.text request.text, integer ppn]
  | .denied address => render "Pmp denies %#x.\n" [integer address]
  | .overdue request steps =>
      render "%s: walk of %s busy for %llu steps."
        [.text unit, .text request.text, integer steps]

def LeafEvent.text (unit : String) : LeafEvent → String
  | .copied entry request sibling =>
      render "Entry %u %s takes data of entry %d.\n"
        [ofNat entry, .text request.text, ofNat sibling]
  | .joined entry request owner =>
      render "Entry %u %s waits on entry %u.\n"
        [ofNat entry, .text request.text, ofNat owner]
  | .droppedPrefetch request sibling =>
      render "Drop prefetch %s, entry %d has it.\n" [.text request.text, ofNat sibling]
  | .accepted entry request ppn =>
      render "Entry %d gets %s ppn %#x.\n" [ofNat entry, .text request.text, integer ppn]
  | .reading entry request =>
      render "Entry %d reads sector of %s.\n" [ofNat entry, .text request.text]
  | .arrived request entry =>
      render "Sector of %s arrives for entry %u.\n" [.text request.text, ofNat entry]
  | .askedStageTwo entry => render "Entry %d requests stage-2.\n" [ofNat entry]
  | .finished entry request =>
      render "Entry %u %s done.\n" [ofNat entry, .text request.text]
  | .denied entry address =>
      render "Entry %u pmp denies %#x.\n" [ofNat entry, integer address]
  | .overdue entry request steps =>
      render "%s: entry %u with %s busy for %llu steps."
        [.text unit, ofNat entry, .text request.text, integer steps]

def TlbEvent.text : TlbEvent → String
  | .accepted request => render "Accept %s.\n" [.text request.text]
  | .registersChanged => "CSR changed, flush.\n"
  | .droppedBlock id => render "Drop flushed memory response id %u.\n" [ofNat id]
  | .deliveredStageTwo id result =>
      render "Stage-2 result id %u gvpn %#x ppn %#x gpf %d gaf %d.\n"
        [ofNat id, integer result.tag, integer result.ppn, ofBool result.pageFault,
          ofBool result.accessFault]
  | .parked request => render "Miss queue %s.\n" [.text request.text]
  | .respondedFromCache response => render "Cache resp %s.\n" [.text response.text]
  | .respondedFromUpper response => render "PTW resp %s.\n" [.text response.text]
  | .respondedFromLeaf response => render "LLPTW resp %s.\n" [.text response.text]
  | .reading request =>
      render "Memory req %#x id %u.\n" [integer request.address, ofNat request.id]

/-- The wording of an event of the unit called `unit`. -/
def Event.text (unit : String) : Event → String
  | .memory event => event.text
  | .cache event => event.text unit
  | .stageTwo event => event.text unit
  | .upper event => event.text unit
  | .leaf event => event.text unit
  | .tlb event => event.text

/-- Whether an event is a warning; all others wait for their debug flag. -/
def Event.isWarning : Event → Bool
  | .cache (.middleCorrupted ..) | .cache (.sectorCorrupted ..) => true
  | .stageTwo (.overdue ..) | .upper (.overdue ..) | .leaf (.overdue ..) => true
  | _ => false

def Event.flag : Event → String
  | .memory _ => "PtwMem"
  | .cache _ => "PageCache"
  | .stageTwo _ => "HPTW"
  | .upper _ => "PTW"
  | .leaf _ => "LLPTW"
  | .tlb _ => "L2TLB"

/-- An event, the unit that reports it, and the unit's cycle. -/
structure Note where
  unit : String
  cycle : Word
  event : Event
deriving DecidableEq, Repr

end PageWalk
