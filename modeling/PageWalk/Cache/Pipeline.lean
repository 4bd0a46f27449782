import PageWalk.Cache.Basic

/-!
# The lookup pipeline

A lookup is accepted, read, checked and answered, one stage in each step, as long as
the next stage is free. Reading takes the first way of every storage that serves the
lookup; checking compares the codes, and invalidates the whole set of a corrupted
line; answering builds the results.
-/

namespace PageWalk.Cache

/-! ## Accepting -/

/-- Offers a lookup. The answer tells whether it was accepted; one that a refill
keeps out is counted. -/
def send (params : Params) (lookup : Lookup) (cache : Cache) : Bool × Outcome Cache :=
  if cache.ready params then
    (true,
      { state := { cache with waiting := some { lookup := lookup } }
        notes := [cache.note params
          (.accepted lookup.request lookup.first lookup.probe lookup.id)] })
  else if params.singlePort && cache.refilled then
    (false,
      { state :=
          { cache with
            counters :=
              { cache.counters with
                refusedInRefill := cache.counters.refusedInRefill + 1 } } })
  else
    (false, { state := cache })

/-! ## Reading -/

/-- The first of `ways` ways whose line passes a test. -/
def firstHit {Line : Type} (ways : Nat) (line : Nat → Line) (serves : Line → Bool) :
    Option (Hit Line) :=
  ((List.range ways).find? fun way => serves (line way)).map fun way => ⟨way, line way⟩

def findRoot (cache : Cache) (registers : Registers) (request : Request) :
    Option (Hit PointerLine) :=
  firstHit cache.roots.size cache.rootLine fun line =>
    line.tag.serves registers request.mode && line.tag.region == regionTag request.vpn 0

def findMiddle (cache : Cache) (params : Params) (registers : Registers) (request : Request) :
    Option (Hit PointerLine) :=
  firstHit params.middleWays.toNat (cache.middleLine params (middleSet params request.vpn))
    fun line =>
      line.tag.serves registers request.mode && line.tag.region == regionTag request.vpn 1

def findSector (cache : Cache) (params : Params) (registers : Registers) (request : Request) :
    Option (Hit SectorLine) :=
  firstHit params.sectorWays.toNat (cache.sectorLine params (sectorSet params request.vpn))
    fun line =>
      line.tag.serves registers request.mode && line.tag.region == sectorTag request.vpn

def findSuperpage (cache : Cache) (registers : Registers) (request : Request) :
    Option (Hit SuperpageLine) :=
  firstHit cache.superpages.size cache.superpageLine fun line =>
    line.tag.serves registers request.mode &&
      line.tag.region == regionTag request.vpn line.level

def read (params : Params) (registers : Registers) (waiting : WaitingLookup) (cache : Cache) :
    ReadLookup :=
  let request := waiting.lookup.request
  { lookup := waiting.lookup
    bypass := waiting.bypass
    root := cache.findRoot registers request
    middle := cache.findMiddle params registers request
    sector := cache.findSector params registers request
    superpage := cache.findSuperpage registers request }

/-! ## Checking -/

def clearMiddleSet (params : Params) (set : UInt32) (cache : Cache) : Cache :=
  { cache with
    middles := (List.range params.middleWays.toNat).foldl
      (fun lines way =>
        lines.modify (middlePosition params set (UInt32.ofNat way)) PointerLine.invalidate)
      cache.middles }

def clearSectorSet (params : Params) (set : UInt32) (cache : Cache) : Cache :=
  { cache with
    sectors := (List.range params.sectorWays.toNat).foldl
      (fun lines way =>
        lines.modify (sectorPosition params set (UInt32.ofNat way)) SectorLine.invalidate)
      cache.sectors }

def countCorrupted (cache : Cache) : Cache :=
  { cache with
    counters := { cache.counters with corruptedSets := cache.counters.corruptedSets + 1 } }

/-- What the check of a coded storage leaves: the line if it matched its code, and
the cache after the access or after the set was cleared. -/
structure CodeCheck (Line : Type) where
  line : Option Line
  corrupted : Bool := false
  outcome : Outcome Cache

def checkMiddle (params : Params) (request : Request) (hit : Option (Hit PointerLine))
    (cache : Cache) : CodeCheck PointerLine :=
  let set := middleSet params request.vpn
  match hit with
  | none => { line := none, outcome := { state := cache } }
  | some hit =>
      if cache.code.hasError hit.line.words hit.line.code then
        { line := none
          corrupted := true
          outcome :=
            { state := countCorrupted (clearMiddleSet params set cache)
              notes := [cache.note params (.middleCorrupted set hit.way)] } }
      else
        { line := some hit.line
          outcome :=
            { state :=
                { cache with
                  middlePolicy := cache.middlePolicy.access set (UInt32.ofNat hit.way) } } }

def checkSector (params : Params) (request : Request) (hit : Option (Hit SectorLine))
    (cache : Cache) : CodeCheck SectorLine :=
  let set := sectorSet params request.vpn
  match hit with
  | none => { line := none, outcome := { state := cache } }
  | some hit =>
      if cache.code.hasError hit.line.words hit.line.code then
        { line := none
          corrupted := true
          outcome :=
            { state := countCorrupted (clearSectorSet params set cache)
              notes := [cache.note params (.sectorCorrupted set hit.way)] } }
      else
        { line := some hit.line
          outcome :=
            { state :=
                { cache with
                  sectorPolicy := cache.sectorPolicy.access set (UInt32.ofNat hit.way) } } }

def touchRoot (hit : Option (Hit PointerLine)) (cache : Cache) : Cache :=
  match hit with
  | none => cache
  | some hit =>
      { cache with rootPolicy := cache.rootPolicy.access 0 (UInt32.ofNat hit.way) }

def touchSuperpage (hit : Option (Hit SuperpageLine)) (cache : Cache) : Cache :=
  match hit with
  | none => cache
  | some hit =>
      { cache with superpagePolicy := cache.superpagePolicy.access 0 (UInt32.ofNat hit.way) }

def check (params : Params) (read : ReadLookup) (cache : Cache) : Outcome Cache :=
  let request := read.lookup.request
  let middle := checkMiddle params request read.middle (touchRoot read.root cache)
  let sector := checkSector params request read.sector middle.outcome.state
  let cache := touchSuperpage read.superpage sector.outcome.state
  let checked : CheckedLookup :=
    { lookup := read.lookup
      bypass := read.bypass
      root := read.root.map (·.line)
      middle := middle.line
      sector := sector.line
      superpage := read.superpage.map (·.line)
      corrupted := middle.corrupted || sector.corrupted }
  { state :=
      { cache with
        checked := some checked
        counters := checked.count cache.counters }
    notes := middle.outcome.notes ++ sector.outcome.notes ++
      [cache.note params checked.event] }

/-! ## Answering -/

def answerStageOne (registers : Registers) (checked : CheckedLookup) : StageOneResult :=
  let request := checked.lookup.request
  let base : StageOneResult :=
    { tag := sectorTag request.vpn
      asid := registers.asid request.mode
      vmid := registers.vmid
      prefetch := request.isPrefetch
      index := sectorIndex request.vpn }
  match checked.sector, checked.superpage with
  | some line, _ =>
      { base with
        level := leafLevel
        sectored := true
        slots := line.slots.map LeafSlot.toSlot }
  | none, some line =>
      { base with level := line.level, slots := Vector.replicate 8 line.toSlot }
  | none, none => base

/-- A first-stage result of the cache as a second-stage result. -/
def stageTwoOf (request : Request) (result : StageOneResult) : StageTwoResult :=
  let slot := result.selected
  { tag := request.vpn
    vmid := result.vmid
    level := result.level
    ppn := slot.ppn
    permissions := slot.permissions
    valid := slot.valid
    prefetch := result.prefetch
    pageFault := slot.pageFault
    accessFault := slot.accessFault }

def answerOf (registers : Registers) (checked : CheckedLookup) : CacheAnswer :=
  let request := checked.lookup.request
  let hit := checked.isHit
  let stageOne := answerStageOne registers checked
  let rootHit := checked.root.isSome
  let middleHit := checked.middle.isSome
  { lookup := checked.lookup
    hit := hit
    sectorHit := checked.sector.isSome
    superpageHit := checked.superpage.isSome
    prefetch :=
      match checked.sector, checked.superpage with
      | some line, _ => line.tag.prefetch
      | none, some line => line.tag.prefetch
      | none, none => false
    bypassed := !hit && checked.bypass.isStale rootHit middleHit
    corrupted := checked.corrupted
    hint :=
      { root := rootHit
        middle := middleHit
        ppn :=
          match checked.middle, checked.root with
          | some line, _ => line.ppn
          | none, some line => line.ppn
          | none, none => 0 }
    stageOne := stageOne
    stageTwo := if hit then stageTwoOf request stageOne else {} }

/-- Answers a checked lookup. A lookup must not hit a sector and a superpage. -/
def respond (params : Params) (registers : Registers) (checked : CheckedLookup)
    (cache : Cache) : Outcome Cache :=
  if checked.sector.isSome && checked.superpage.isSome then
    .stop cache (.misuse params.cacheName (.doubleHit checked.lookup.request))
  else
    let answer := answerOf registers checked
    { state := { cache with answer := some answer, checked := none }
      notes := [cache.note params answer.event] }

/-! ## One step -/

/-- Answers the checked lookup if the last answer was taken. -/
def respondStage (params : Params) (registers : Registers) (cache : Cache) : Outcome Cache :=
  match cache.answer, cache.checked with
  | none, some checked => respond params registers checked cache
  | _, _ => { state := cache }

/-- Checks the lookup that was read if the next stage is free. -/
def checkStage (params : Params) (cache : Cache) : Outcome Cache :=
  match cache.checked, cache.reading with
  | none, some read => check params read { cache with reading := none }
  | _, _ => { state := cache }

/-- Reads the storages for the waiting lookup if the next stage is free. -/
def readStage (params : Params) (registers : Registers) (cache : Cache) : Cache :=
  match cache.reading, cache.waiting with
  | none, some waiting =>
      { cache with reading := some (read params registers waiting cache), waiting := none }
  | _, _ => cache

def endStep (cache : Cache) : Cache :=
  { cache with refilled := false, flushed := false, cycle := cache.cycle + 1 }

/-- One step: the stages move from the last to the first. -/
def tick (params : Params) (registers : Registers) (cache : Cache) : Outcome Cache :=
  (cache.respondStage params registers).andThen fun cache =>
    (cache.checkStage params).andThen fun cache =>
      { state := (cache.readStage params registers).endStep }

/-! ## Taking the answer -/

def withoutAnswer (cache : Cache) (answer : CacheAnswer) : Cache :=
  { cache with
    answer := none
    counters :=
      { cache.counters with
        bypassed := cache.counters.bypassed + answer.bypassed.toNat } }

def pop (params : Params) (cache : Cache) : Outcome Cache :=
  match cache.answer with
  | some answer => { state := cache.withoutAnswer answer }
  | none => .stop cache (.misuse params.cacheName .popWithoutResponse)

def peek (params : Params) (cache : Cache) : Except Fault CacheAnswer :=
  match cache.answer with
  | some answer => .ok answer
  | none => .error (.misuse params.cacheName .peekWithoutResponse)

end PageWalk.Cache
