import PageWalk.Tlb.Basic

/-!
# One step of the TLB

A step first hands out what has arrived: the memory's block, the second-stage
walker's reply, the leaf walk that waits, the cache's answer and the finished walks.
Then the walkers step, the memory takes one read, a second-stage walk starts, and
the cache takes one lookup. Last the cache and the memory step.
-/

namespace PageWalk.Tlb

/-! ## Parts seen from the TLB -/

def onCache (operation : Cache → Outcome Cache) (tlb : Tlb) : Outcome Tlb :=
  (operation tlb.cache).map fun cache => { tlb with cache := cache }

def onUpper (operation : UpperWalker → Outcome UpperWalker) (tlb : Tlb) : Outcome Tlb :=
  (operation tlb.upper).map fun upper => { tlb with upper := upper }

def onLeaf (operation : LeafWalker → Outcome LeafWalker) (tlb : Tlb) : Outcome Tlb :=
  (operation tlb.leaf).map fun leaf => { tlb with leaf := leaf }

def onStageTwo (operation : StageTwoWalker → Outcome StageTwoWalker) (tlb : Tlb) :
    Outcome Tlb :=
  (operation tlb.stageTwo).map fun stageTwo => { tlb with stageTwo := stageTwo }

def count (change : TlbCounters → TlbCounters) (tlb : Tlb) : Tlb :=
  { tlb with counters := change tlb.counters }

/-! ## Blocks from memory -/

/-- Offers what a walker has read to the cache, if it waits for the block. -/
def refillCache (refill : Option Refill) (tlb : Tlb) : Outcome Tlb :=
  match refill with
  | some refill => tlb.onCache (Cache.refill tlb.params tlb.registers refill)
  | none => { state := tlb }

/-- Hands a block to the walker that reads under an id, and to the cache. -/
def deliverBlock (id : Nat) (block : Block) (tlb : Tlb) : Outcome Tlb :=
  if id = tlb.params.upperId then
    (tlb.onUpper (UpperWalker.takeBlock tlb.params tlb.registers block)).andThen
      (refillCache (tlb.upper.refill? block))
  else if id = tlb.params.stageTwoId then
    (tlb.onStageTwo (StageTwoWalker.takeBlock tlb.params tlb.registers block)).andThen
      (refillCache (tlb.stageTwo.refill? block))
  else
    (tlb.onLeaf (LeafWalker.takeBlock tlb.params id block)).andThen
      (refillCache (tlb.leaf.refill? id block))

/-- Drops a block whose walk was flushed. -/
def dropBlock (id : Nat) (tlb : Tlb) : Outcome Tlb :=
  { state :=
      { tlb with
        staleReads := tlb.staleReads.modify id (· - 1)
        counters := { tlb.counters with staleBlocks := tlb.counters.staleBlocks + 1 } }
    notes := [tlb.note (.droppedBlock id)] }

/-- Takes a reply of the memory: its reader must have asked for it. -/
def acceptReply (reply : MemoryReply) (tlb : Tlb) : Outcome Tlb :=
  match tlb.reads[reply.id]? with
  | none => tlb.misuse (.memoryIdOverflow reply.id)
  | some 0 => tlb.misuse (.memoryIdUnrequested reply.id)
  | some (_ + 1) =>
      let tlb := { tlb with reads := tlb.reads.modify reply.id (· - 1) }
      if 0 < tlb.staleReads.getD reply.id 0 then
        tlb.dropBlock reply.id
      else
        tlb.deliverBlock reply.id reply.block

/-- Takes the memory's reply, if one is due. -/
def receiveBlock (tlb : Tlb) : Outcome Tlb :=
  match tlb.memory.receive? with
  | none => { state := tlb }
  | some (reply, outcome) =>
      (outcome.map fun memory => { tlb with memory := memory }).andThen (acceptReply reply)

/-! ## Second-stage results -/

/-- Hands a second-stage result to the walker that asked under an id. -/
def deliverStageTwo (id : Nat) (result : StageTwoResult) (tlb : Tlb) : Outcome Tlb :=
  Outcome.andThen { state := tlb, notes := [tlb.note (.deliveredStageTwo id result)] }
    fun tlb =>
      if id = tlb.params.upperId then
        tlb.onUpper (UpperWalker.takeStageTwo tlb.params tlb.registers result)
      else if tlb.params.leafWalkerSize.toNat ≤ id then
        tlb.misuse (.stageTwoIdOverflow id)
      else
        tlb.onLeaf (LeafWalker.takeStageTwo tlb.params id result)

/-- Hands the second-stage walker's reply over, if there is one. -/
def routeReply (tlb : Tlb) : Outcome Tlb :=
  match tlb.stageTwo.reply? with
  | none => { state := tlb }
  | some reply =>
      (tlb.onStageTwo (StageTwoWalker.takeReply tlb.params)).andThen
        (deliverStageTwo reply.id reply.result)

/-! ## Leaf walks -/

/-- Hands the upper walker's leaf walk on, if there is one and room for it. -/
def dispatch (tlb : Tlb) : Outcome Tlb :=
  match tlb.upper.dispatch? with
  | some leaf =>
      if tlb.leaf.ready then
        (tlb.onLeaf (LeafWalker.accept tlb.params leaf)).andThen fun tlb =>
          tlb.onUpper (UpperWalker.takeDispatch tlb.params)
      else
        { state := tlb }
  | none => { state := tlb }

/-! ## Answers of the cache -/

/-- Parks a lookup that has to try the cache again. -/
def park (request : Request) (tlb : Tlb) : Outcome Tlb :=
  match tlb.misses.send? { request := request } with
  | some misses =>
      { state :=
          { tlb with
            misses := misses
            counters := { tlb.counters with parked := tlb.counters.parked + 1 } }
        notes := [tlb.note (.parked request)] }
  | none => tlb.misuse (.missQueueOverflow request)

def respond (response : Response) (tlb : Tlb) : Tlb :=
  { tlb with
    responses := tlb.responses ++ [response]
    counters := { tlb.counters with responses := tlb.counters.responses + 1 } }

def responseOfHit (answer : CacheAnswer) : Response where
  request := answer.lookup.request
  stageOne := answer.stageOne
  stageTwo := if answer.lookup.request.mode = .stageTwo then some answer.stageTwo else none
  fromCache := true

/-- Routes the answer to a guest page: a hit goes to the walker that asked, a miss
to the second-stage walker. -/
def routeProbe (answer : CacheAnswer) (tlb : Tlb) : Outcome Tlb :=
  if answer.hit then
    deliverStageTwo answer.lookup.id answer.stageTwo
      (tlb.count fun counters =>
        { counters with stageTwoCacheHits := counters.stageTwoCacheHits + 1 })
  else
    let request : StageTwoRequest :=
      { id := answer.lookup.id
        gvpn := answer.lookup.request.vpn
        source := answer.lookup.request.source
        rootHit := answer.hint.root
        middleHit := answer.hint.middle
        ppn := answer.hint.ppn }
    match tlb.guestPages.send? request with
    | some guestPages => { state := { tlb with guestPages := guestPages } }
    | none => tlb.misuse (.stageTwoQueueOverflow request.id)

/-- Routes the answer to a lookup: a hit is a response; a miss goes to the leaf
walker if its leaf table is known, else to the upper walker; a miss that is stale,
or whose walker has no room, is parked. -/
def routeLookup (answer : CacheAnswer) (tlb : Tlb) : Outcome Tlb :=
  let request := answer.lookup.request
  if answer.hit then
    let response := responseOfHit answer
    { state :=
        (tlb.respond response).count fun counters =>
          { counters with cacheResponses := counters.cacheResponses + 1 }
      notes := [tlb.note (.respondedFromCache response)] }
  else if answer.bypassed then
    tlb.park request
  else if answer.hint.middle && request.mode != .stageTwo then
    if tlb.leaf.ready then
      (tlb.onLeaf (LeafWalker.accept tlb.params ⟨request, answer.hint.ppn⟩)).map
        (count fun counters => { counters with toLeaf := counters.toLeaf + 1 })
    else
      tlb.park request
  else if tlb.upper.ready then
    (tlb.onUpper (UpperWalker.accept tlb.params tlb.registers
      ⟨request, answer.hint.root, answer.hint.ppn⟩)).map
      (count fun counters => { counters with toUpper := counters.toUpper + 1 })
  else
    tlb.park request

/-- Takes the cache's answer, if there is one, and routes it. -/
def routeAnswer (tlb : Tlb) : Outcome Tlb :=
  match tlb.cache.answer with
  | none => { state := tlb }
  | some answer =>
      (tlb.onCache (Cache.pop tlb.params)).andThen fun tlb =>
        if answer.lookup.probe then
          tlb.routeProbe answer
        else if tlb.lookupsInCache = 0 then
          tlb.misuse (.untrackedLookup answer.lookup.request)
        else
          routeLookup answer { tlb with lookupsInCache := tlb.lookupsInCache - 1 }

/-! ## Finished walks -/

/-- Takes the response of the upper walker, if there is one. -/
def collectUpper (tlb : Tlb) : Outcome Tlb :=
  match tlb.upper.response? with
  | none => { state := tlb }
  | some response =>
      (tlb.onUpper (UpperWalker.takeResponse tlb.params)).andThen fun tlb =>
        { state := tlb.respond response, notes := [tlb.note (.respondedFromUpper response)] }

/-- Takes one response of the leaf walker, if there is one. -/
def collectLeaf (tlb : Tlb) : Outcome Tlb :=
  match tlb.leaf.finishedIndex? with
  | none => { state := tlb }
  | some index =>
      let response := (tlb.leaf.entry index).response tlb.params tlb.registers
      (tlb.onLeaf (LeafWalker.takeFinished tlb.params)).andThen fun tlb =>
        { state := tlb.respond response, notes := [tlb.note (.respondedFromLeaf response)] }

/-! ## Arbitration -/

/-- The read that comes next: the upper walker's before the leaf walker's before the
second-stage walker's. -/
def nextRead? (tlb : Tlb) : Option MemoryRequest :=
  ((tlb.upper.memoryRequest? tlb.params).or tlb.leaf.memoryRequest?).or
    (tlb.stageTwo.memoryRequest? tlb.params)

/-- Tells the walker whose read comes next that the memory took it. -/
def fireRead (tlb : Tlb) : Outcome Tlb :=
  if (tlb.upper.memoryRequest? tlb.params).isSome then
    tlb.onUpper (UpperWalker.fireMemory tlb.params)
  else if tlb.leaf.memoryRequest?.isSome then
    tlb.onLeaf (LeafWalker.fireMemory tlb.params)
  else
    tlb.onStageTwo (StageTwoWalker.fireMemory tlb.params)

/-- Sends the read that comes next, if the memory takes it. -/
def sendRead (tlb : Tlb) : Outcome Tlb :=
  match tlb.nextRead? with
  | none => { state := tlb }
  | some request =>
      match tlb.memory.send? request with
      | none => { state := tlb }
      | some outcome =>
          (outcome.map fun memory => { tlb with memory := memory }).andThen fun tlb =>
            tlb.fireRead.andThen fun tlb =>
              { state :=
                  { tlb with
                    reads := tlb.reads.modify request.id (· + 1)
                    counters :=
                      { tlb.counters with
                        memoryRequests := tlb.counters.memoryRequests + 1 } }
                notes := [tlb.note (.reading request)] }

/-- Starts the oldest second-stage walk that waits, if its walker is free. -/
def startGuestPage (tlb : Tlb) : Outcome Tlb :=
  match tlb.guestPages.peek? with
  | some request =>
      if tlb.stageTwo.ready then
        (tlb.onStageTwo (StageTwoWalker.accept tlb.params tlb.registers request)).map
          fun tlb => { tlb with guestPages := tlb.guestPages.tail }
      else
        { state := tlb }
  | none => { state := tlb }

/-- Offers a lookup to the cache, and goes on if it was accepted. -/
def offer (lookup : Lookup) (accepted : Tlb → Outcome Tlb) (tlb : Tlb) : Outcome Tlb :=
  let (taken, outcome) := Cache.send tlb.params lookup tlb.cache
  let outcome := outcome.map fun cache => { tlb with cache := cache }
  if taken then outcome.andThen accepted else outcome

/-- The lookup of a guest page on behalf of a walker. -/
def probeOf (request : StageTwoRequest) : Lookup where
  request := { vpn := request.gvpn, source := request.source, mode := .stageTwo }
  probe := true
  id := request.id

/-- The guest page that the leaf walker wants translated, if no other is on its
way. -/
def leafPage? (tlb : Tlb) : Option StageTwoRequest :=
  if tlb.leaf.wantsStageTwo then tlb.leaf.stageTwoRequest? else none

/-- Offers one lookup to the cache: a guest page of the upper walker, a guest page
of the leaf walker, a parked lookup, or a new one. -/
def feedCache (tlb : Tlb) : Outcome Tlb :=
  match tlb.upper.stageTwoRequest? tlb.params, tlb.leafPage?, tlb.misses.peek?,
      tlb.inputs.peek? with
  | some request, _, _, _ =>
      offer (probeOf request) (fun tlb => tlb.onUpper (UpperWalker.fireStageTwo tlb.params)) tlb
  | none, some request, _, _ =>
      offer (probeOf request) (fun tlb => tlb.onLeaf (LeafWalker.fireStageTwo tlb.params)) tlb
  | none, none, some lookup, _ =>
      offer lookup
        (fun tlb =>
          { state :=
              { tlb with
                misses := tlb.misses.tail
                lookupsInCache := tlb.lookupsInCache + 1 } }) tlb
  | none, none, none, some request =>
      offer { request := request, first := true }
        (fun tlb =>
          { state :=
              { tlb with
                inputs := tlb.inputs.tail
                lookupsInCache := tlb.lookupsInCache + 1 } }) tlb
  | none, none, none, none => { state := tlb }

/-! ## The step -/

def tickWalkers (tlb : Tlb) : Outcome Tlb :=
  (tlb.onUpper (UpperWalker.tick tlb.params tlb.registers tlb.protection)).andThen fun tlb =>
    (tlb.onLeaf (LeafWalker.tick tlb.params tlb.protection)).andThen fun tlb =>
      tlb.onStageTwo (StageTwoWalker.tick tlb.params tlb.registers tlb.protection)

def endStep (tlb : Tlb) : Outcome Tlb :=
  { state := { tlb with memory := tlb.memory.tick, cycle := tlb.cycle + 1 } }

/-- The phases of a step in order. -/
def phases : List (Tlb → Outcome Tlb) :=
  [receiveBlock, routeReply, dispatch, routeAnswer, collectUpper, collectLeaf, tickWalkers,
    sendRead, startGuestPage, feedCache,
    fun tlb => tlb.onCache (Cache.tick tlb.params tlb.registers), endStep]

def tick (tlb : Tlb) : Outcome Tlb :=
  Outcome.forEach (fun phase tlb => phase tlb) phases tlb

end PageWalk.Tlb
