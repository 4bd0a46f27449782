import PageWalk.Result

/-!
# Faults

Everything that can stop the library: an unusable configuration or input is
fatal, a broken hand-over between the parts is a panic, and an index outside a
collection is out of range. `Fault.message` holds all of their wording.
-/

namespace PageWalk

open Format (render)
open Format.Argument (integer text ofNat)

inductive FaultKind
  | fatal
  | panic
  | outOfRange
deriving DecidableEq, Repr

inductive ParamsFlaw
  | noAssociativeEntries
  | noWays
  | middleSets (sets : UInt32)
  | leafSets (sets : UInt32)
  | leafWalkerSize (size : UInt32)
  | noMissQueue
  | addressBits (bits : UInt32)
  | policy (name : String)
  | code (name : String)
deriving DecidableEq, Repr

/-- The wording of a flaw in the parameters called `name`. -/
def ParamsFlaw.message (name : String) : ParamsFlaw → String
  | .noAssociativeEntries => render "%s: l1Size and spSize must be positive." [text name]
  | .noWays => render "%s: cache ways must be positive." [text name]
  | .middleSets sets =>
      render "%s: l2nSets %u should be power of 2." [text name, integer sets.toUInt64]
  | .leafSets sets =>
      render "%s: l3nSets %u should be power of 2." [text name, integer sets.toUInt64]
  | .leafWalkerSize size =>
      render "%s: llptwSize %u is too small." [text name, integer size.toUInt64]
  | .noMissQueue => render "%s: missQueueSize must be positive." [text name]
  | .addressBits bits =>
      render "%s: illegal paddrBits %u." [text name, integer bits.toUInt64]
  | .policy unknown =>
      render "%s: unknown replacement policy %s." [text name, text unknown]
  | .code unknown => render "%s: unknown ecc %s." [text name, text unknown]

/-- A hand-over that a unit of the walk does not expect. -/
inductive Misuse
  | peekWithoutResponse
  | popWithoutResponse
  | doubleHit (request : Request)
  | refillLevel (level : Nat)
  | uncodedLevel (level : Nat)
  | unknownLevel (level : Nat)
  | pageWhileBusy (gvpn : Word)
  | requestWhileBusy (request : Request)
  | fireWithoutMemoryRequest
  | blockNotAwaited
  | fireWithoutStageTwoRequest
  | stageTwoNotAwaited
  | fireWithoutDispatch
  | fireWithoutResponse
  | requestWhileFull (request : Request)
  | noMemoryRequest
  | entryOverflow (id : Nat)
  | unexpectedBlock (id : Nat)
  | noStageTwoRequest
  | stageTwoWhileIdle (id : Nat)
  | noFinishedEntry
  | memoryIdOverflow (id : Nat)
  | memoryIdUnrequested (id : Nat)
  | stageTwoIdOverflow (id : Nat)
  | missQueueOverflow (request : Request)
  | stageTwoQueueOverflow (id : Nat)
  | untrackedLookup (request : Request)
deriving DecidableEq, Repr

def Misuse.message (unit : String) : Misuse → String
  | .peekWithoutResponse => render "%s: no response to peek." [text unit]
  | .popWithoutResponse => render "%s: no response to pop." [text unit]
  | .doubleHit request =>
      render "%s: %s hits both a leaf sector and a superpage." [text unit, text request.text]
  | .refillLevel level =>
      render "%s: refill with illegal level %u." [text unit, ofNat level]
  | .uncodedLevel level =>
      render "%s: level %u is not ecc protected." [text unit, ofNat level]
  | .unknownLevel level => render "%s: illegal level %u." [text unit, ofNat level]
  | .pageWhileBusy gvpn => render "%s: request %#x while busy." [text unit, integer gvpn]
  | .requestWhileBusy request =>
      render "%s: request %s while busy." [text unit, text request.text]
  | .fireWithoutMemoryRequest => render "%s: fire without memory request." [text unit]
  | .blockNotAwaited => render "%s: memory response while not waiting." [text unit]
  | .fireWithoutStageTwoRequest => render "%s: fire without stage-2 request." [text unit]
  | .stageTwoNotAwaited => render "%s: stage-2 response while not waiting." [text unit]
  | .fireWithoutDispatch => render "%s: fire without dispatch." [text unit]
  | .fireWithoutResponse => render "%s: fire without response." [text unit]
  | .requestWhileFull request =>
      render "%s: request %s while full." [text unit, text request.text]
  | .noMemoryRequest => render "%s: no memory request." [text unit]
  | .entryOverflow id => render "%s: response id %u overflow." [text unit, ofNat id]
  | .unexpectedBlock id =>
      render "%s: unexpected memory response for entry %u." [text unit, ofNat id]
  | .noStageTwoRequest => render "%s: no stage-2 request." [text unit]
  | .stageTwoWhileIdle id =>
      render "%s: stage-2 response %u while idle." [text unit, ofNat id]
  | .noFinishedEntry => render "%s: no finished entry." [text unit]
  | .memoryIdOverflow id =>
      render "%s: memory response id %u overflow." [text unit, ofNat id]
  | .memoryIdUnrequested id =>
      render "%s: memory response id %u without request." [text unit, ofNat id]
  | .stageTwoIdOverflow id => render "%s: stage-2 id %u overflow." [text unit, ofNat id]
  | .missQueueOverflow request =>
      render "%s: miss queue overflow with %s." [text unit, text request.text]
  | .stageTwoQueueOverflow id =>
      render "%s: stage-2 queue overflow with id %u." [text unit, ofNat id]
  | .untrackedLookup request =>
      render "%s: untracked lookup %s." [text unit, text request.text]

inductive TraceFlaw
  /-- The file cannot be read. -/
  | unreadable
  | noMagic
  | wrongMagic
  /-- A message does not follow its encoding. -/
  | malformed
  | noHeader
  | backwards (step last : Word)
  | emptyOperation (step : Word)
  | emptyRecord
deriving DecidableEq, Repr

def TraceFlaw.message (path : String) : TraceFlaw → String
  | .unreadable => render "Could not open %s for reading." [text path]
  | .noMagic => render "Could not read magic number from %s." [text path]
  | .wrongMagic => render "Input file %s is not a ptwsim trace." [text path]
  | .malformed => render "Unable to read message from coded stream %s." [text path]
  | .noHeader => render "Trace %s has no header." [text path]
  | .backwards step last =>
      render "Trace %s: op at step %llu after step %llu."
        [text path, integer step, integer last]
  | .emptyOperation step =>
      render "Trace %s: empty op at step %llu." [text path, integer step]
  | .emptyRecord => render "Trace %s: empty record." [text path]

/-- Everything that can stop the library. -/
inductive Fault
  | outOfRange
  /-- A message of the caller's own. -/
  | reported (kind : FaultKind) (message : String)
  | params (name : String) (flaw : ParamsFlaw)
  | misuse (unit : String) (cause : Misuse)
  | trace (path : String) (flaw : TraceFlaw)
  | unknownCode (name : String)
  | unknownPolicy (name : String)
  | treeWays (ways : UInt32)
  | emptyPolicy
  | emptyDenyRange (start stop : Word)
  | emptyDeviceRange (start stop : Word)
  | noQueueCapacity
  | peekEmptyQueue
  | popEmptyQueue
  | unalignedWrite
  | tableLevel (level : Nat)
  | mappedByLeaf (vpn : Word) (level : Nat)
  | middleLine (set way : UInt32)
  | sectorLine (set way : UInt32)
  | bothGuestFences
  | wideLookup (vpn : Word) (bits : UInt32)
  | stepLimit (text : String)
  | statisticsFile (path : String)
deriving DecidableEq, Repr

def Fault.kind : Fault → FaultKind
  | .outOfRange => .outOfRange
  | .reported kind _ => kind
  | .trace _ .malformed => .panic
  | .params .. | .trace .. | .unknownCode _ | .unknownPolicy _ | .treeWays _
  | .emptyDenyRange .. | .emptyDeviceRange .. | .bothGuestFences | .wideLookup ..
  | .stepLimit _ | .statisticsFile _ => .fatal
  | .misuse .. | .emptyPolicy | .noQueueCapacity | .peekEmptyQueue | .popEmptyQueue
  | .unalignedWrite | .tableLevel _ | .mappedByLeaf .. | .middleLine .. | .sectorLine .. =>
      .panic

/-- The wording of a fault, if it has one. -/
def Fault.message : Fault → Option String
  | .outOfRange => none
  | .reported _ message => some message
  | .params name flaw => some (flaw.message name)
  | .misuse unit cause => some (cause.message unit)
  | .trace path flaw => some (flaw.message path)
  | .unknownCode name => some (render "Unknown ecc %s." [text name])
  | .unknownPolicy name => some (render "Unknown replacement policy %s." [text name])
  | .treeWays ways =>
      some (render "PLRU needs a power of 2 ways, got %u." [integer ways.toUInt64])
  | .emptyPolicy => some "ReplacementPolicy must have positive sets and ways."
  | .emptyDenyRange start stop =>
      some (render "Empty pmp range [%#x, %#x)." [integer start, integer stop])
  | .emptyDeviceRange start stop =>
      some (render "Empty mmio range [%#x, %#x)." [integer start, integer stop])
  | .noQueueCapacity => some "DecoupledQueue with zero capacity."
  | .peekEmptyQueue => some "Peek an empty DecoupledQueue."
  | .popEmptyQueue => some "Pop an empty DecoupledQueue."
  | .unalignedWrite => none
  | .tableLevel level => some (render "Illegal level %u." [ofNat level])
  | .mappedByLeaf vpn level =>
      some (render "Vpn %#x already mapped by a leaf at level %u." [integer vpn, ofNat level])
  | .middleLine set way =>
      some (render "L2 (%u, %u) out of range." [integer set.toUInt64, integer way.toUInt64])
  | .sectorLine set way =>
      some (render "L3 (%u, %u) out of range." [integer set.toUInt64, integer way.toUInt64])
  | .bothGuestFences => some "Sfence can not be both hv and hg."
  | .wideLookup vpn bits =>
      some (render "Lookup vpn %#x wider than %u bits."
        [integer vpn, integer bits.toUInt64])
  | .stepLimit limit => some (render "Illegal --max-steps %s." [text limit])
  | .statisticsFile path =>
      some (render "Could not open %s for writing." [text path])

end PageWalk
