import PageWalk.Proofs.Cache.Codes
import PageWalk.Proofs.Cache.Placement

/-!
# Leaf refills

A leaf refill is written to one way of the set of its sector, whatever the other ways of
the set hold. The lookups of the sector find one and the same line afterwards: the first
way of the set that serves them. That is the line of the refill, unless a lower way holds
an older line of the sector, which a refill does not look for.
-/

namespace PageWalk.Cache

variable {params : Params} {cache after : Cache} {registers : Registers}

/-! ## The storage of the sectors -/

/-- The storage of the sectors has its size, and its policy names ways of it. -/
structure SectorsFit (params : Params) (cache : Cache) : Prop where
  size : cache.sectors.size = (params.sectorSets * params.sectorWays).toNat
  fitted : Fitted params cache

theorem sectorsFit_of_create
    (created : Cache.create params = .ok cache) :
    0 < params.sectorSets ∧ SectorsFit params cache := by
  obtain ⟨_, _, _, _, _, _, middle, sector, _, rfl⟩ := create_spec created
  have policy := ReplacementPolicy.spec_of_create sector
  exact ⟨policy.1, Array.size_replicate,
    ⟨ReplacementPolicy.fits_of_create middle, policy.2⟩⟩

/-- Whatever is done to a cache, the storage of the sectors keeps its size. -/
theorem SectorsFit.perform
    {history : History} (fits : SectorsFit params history.cache) (move : Move) :
    SectorsFit params (history.perform params move).state.cache := by
  have same := sameShape_perform params history move
  exact ⟨(same.sizes .sector).trans fits.size, fits.fitted.of_sameShape same⟩

/-! ## What a leaf refill writes -/

/-- The request belongs to the sector and the mode of a refill. -/
structure SameSector (refill : Refill) (request : Request) : Prop where
  mode : request.mode = refill.request.mode
  sector : sectorTag request.vpn = sectorTag refill.request.vpn

/-- The way that a leaf refill is written to. -/
def refilledWay (params : Params) (refill : Refill) (cache : Cache) : UInt32 :=
  let set := sectorSet params refill.request.vpn
  (cache.sectorPolicy.choose set fun way => (cache.sectorLine params set way).tag.valid).1

/-- The line that a leaf refill writes, without its code. -/
def refilledSector (params : Params) (registers : Registers) (refill : Refill) : SectorLine where
  tag := .ofRefill registers refill.request (sectorTag refill.request.vpn)
    (allGlobal refill.block)
  slots := refill.block.map fun word =>
    LeafSlot.ofPte refill.request.mode params.addressBits ⟨word⟩

/-- The line that a leaf refill writes. -/
def codedSector (params : Params) (registers : Registers) (refill : Refill) (code : LineCode) :
    SectorLine :=
  let line := refilledSector params registers refill
  { line with code := code.encode line.words }

/-- A line of the sector of a refill that serves its mode. -/
def servesRefill (registers : Registers) (refill : Refill) (line : SectorLine) : Bool :=
  line.tag.serves registers refill.request.mode &&
    line.tag.region == sectorTag refill.request.vpn

/-- The first line of the sector of a refill in the ways below the one that it is written
to. -/
def olderSector (params : Params) (registers : Registers) (refill : Refill) (cache : Cache) :
    Option (Hit SectorLine) :=
  firstHit (refilledWay params refill cache).toNat
    (cache.sectorLine params (sectorSet params refill.request.vpn))
    (servesRefill registers refill)

/-- The line that lookups of the sector find after a leaf refill. -/
def currentSector (params : Params) (registers : Registers) (refill : Refill) (cache : Cache) :
    SectorLine :=
  match olderSector params registers refill cache with
  | some hit => hit.line
  | none => codedSector params registers refill cache.code

theorem serves_ofRefill
    (registers : Registers) (request : Request) (region : Word) (global : Bool) :
    (LineTag.ofRefill registers request region global).serves registers request.mode = true := by
  simp [LineTag.serves, LineTag.ofRefill]

theorem servesRefill_codedSector
    (params : Params) (registers : Registers) (refill : Refill) (code : LineCode) :
    servesRefill registers refill (codedSector params registers refill code) = true := by
  unfold servesRefill
  rw [Bool.and_eq_true, beq_iff_eq]
  exact ⟨serves_ofRefill _ _ _ _, rfl⟩

/-- A lookup of the sector searches for the lines that serve the refill. -/
theorem findSector_of_sameSector
    {refill : Refill} {request : Request} (same : SameSector refill request) :
    cache.findSector params registers request =
      firstHit params.sectorWays.toNat
        (cache.sectorLine params (sectorSet params refill.request.vpn))
        (servesRefill registers refill) := by
  unfold findSector servesRefill sectorSet
  rw [same.mode, same.sector]

/-- The storages and the lookups on their way after a leaf refill that is written. -/
structure LeafRefilled (params : Params) (registers : Registers) (refill : Refill)
    (cache after : Cache) : Prop where
  sectors : after.sectors =
    cache.sectors.setIfInBounds
      (sectorPosition params (sectorSet params refill.request.vpn)
        (refilledWay params refill cache))
      (codedSector params registers refill cache.code)
  superpages : after.superpages = cache.superpages
  code : after.code = cache.code
  reading : ∀ read, after.reading = some read → ∃ earlier, cache.reading = some earlier ∧
    read.sector = earlier.sector

theorem leafRefilled_of_takes
    {refill : Refill} (taken : cache.takes params refill = true)
    (leaf : refill.level = leafLevel) :
    LeafRefilled params registers refill cache
      (Cache.refill params registers refill cache).state := by
  rcases refill_cases params registers refill cache with ⟨_, _, state⟩ | ⟨dropped, _⟩
  · have stored : Cache.store params registers refill { cache with refilled := true } =
        Cache.refillSector params registers refill { cache with refilled := true } := by
      unfold Cache.store
      rw [if_neg (by omega), if_pos leaf]
    rw [state, stored]
    refine ⟨rfl, rfl, rfl, fun read found => ?_⟩
    obtain ⟨earlier, before, rfl⟩ := Option.map_eq_some_iff.1 found
    exact ⟨earlier, before, rfl⟩
  · rw [dropped] at taken
    cases taken

/-! ## What lookups find afterwards -/

section FirstHit

variable {Line : Type} {line other : Nat → Line} {serves : Line → Bool}

private theorem firstHit_succ (ways : Nat) (line : Nat → Line) (serves : Line → Bool) :
    firstHit (ways + 1) line serves =
      (firstHit ways line serves).or
        (if serves (line ways) then some ⟨ways, line ways⟩ else none) := by
  unfold firstHit
  rw [List.range_succ, List.find?_append]
  cases (List.range ways).find? fun way => serves (line way) with
  | some way => rfl
  | none =>
      simp only [Option.none_or, List.find?_cons, List.find?_nil, Option.map_none]
      by_cases served : serves (line ways) = true
      · simp [served]
      · simp [served]

private theorem firstHit_congr
    {ways : Nat} (same : ∀ way < ways, line way = other way) :
    firstHit ways line serves = firstHit ways other serves := by
  induction ways with
  | zero => rfl
  | succ ways inductionHypothesis =>
      rw [firstHit_succ, firstHit_succ, same ways (Nat.lt_succ_self ways),
        inductionHypothesis fun way below => same way (Nat.lt_succ_of_lt below)]

/-- After one line was written that passes the test, the first hit is one of the lines
below it, or it is the line itself. -/
private theorem firstHit_of_written
    {target ways : Nat} (below : target < ways) (served : serves (line target) = true)
    (same : ∀ way < target, line way = other way) :
    firstHit ways line serves =
      some ((firstHit target other serves).getD ⟨target, line target⟩) := by
  induction ways with
  | zero => cases below
  | succ ways inductionHypothesis =>
      rw [firstHit_succ]
      rcases Nat.lt_succ_iff_lt_or_eq.1 below with earlier | rfl
      · rw [inductionHypothesis earlier]
        rfl
      · rw [if_pos served, firstHit_congr same]
        cases firstHit target other serves with
        | some hit => rfl
        | none => rfl

end FirstHit

theorem LeafRefilled.sectorLine
    {refill : Refill} (refilled : LeafRefilled params registers refill cache after)
    (housed : SectorsFit params cache) (positive : 0 < params.sectorSets)
    (counted : params.sectorSets.toNat * params.sectorWays.toNat < UInt32.size)
    {way : Nat} (inside : way < params.sectorWays.toNat) :
    after.sectorLine params (sectorSet params refill.request.vpn) way =
      if (refilledWay params refill cache).toNat = way then
        codedSector params registers refill cache.code
      else
        cache.sectorLine params (sectorSet params refill.request.vpn) way := by
  have fits := Nat.le_of_lt counted
  have set : sectorSet params refill.request.vpn < params.sectorSets :=
    selectedSet_lt positive (sectorTag refill.request.vpn)
  have target : (refilledWay params refill cache).toNat < params.sectorWays.toNat :=
    UInt32.lt_iff_toNat_lt.1 (housed.fitted.sector.choose _ _).1
  obtain ⟨position, room⟩ := toNat_position fits set inside
  obtain ⟨written, targetRoom⟩ := toNat_position fits set target
  rw [UInt32.ofNat_toNat] at written
  have size : cache.sectors.size = params.sectorSets.toNat * params.sectorWays.toNat := by
    rw [housed.size, UInt32.toNat_mul, Nat.mod_eq_of_lt counted]
  unfold Cache.sectorLine sectorPosition
  rw [refilled.sectors, Array.getD_eq_getD_getElem?, Array.getD_eq_getD_getElem?,
    Array.getElem?_setIfInBounds]
  unfold sectorPosition
  rw [written, position, size]
  by_cases same : (refilledWay params refill cache).toNat = way
  · rw [if_pos same, if_pos (by rw [same]), if_pos targetRoom]
    rfl
  · rw [if_neg same, if_neg (by omega)]

/-- After a leaf refill all lookups of its sector and mode find the same line. -/
theorem LeafRefilled.findSector
    {refill : Refill} (refilled : LeafRefilled params registers refill cache after)
    (housed : SectorsFit params cache) (positive : 0 < params.sectorSets)
    (counted : params.sectorSets.toNat * params.sectorWays.toNat < UInt32.size)
    {request : Request} (same : SameSector refill request) :
    (after.findSector params registers request).map (·.line) =
      some (currentSector params registers refill cache) := by
  have line {way : Nat} (inside : way < params.sectorWays.toNat) :=
    refilled.sectorLine housed positive counted inside
  have target : (refilledWay params refill cache).toNat < params.sectorWays.toNat :=
    UInt32.lt_iff_toNat_lt.1 (housed.fitted.sector.choose _ _).1
  have written := line target
  rw [if_pos rfl] at written
  have served : servesRefill registers refill
      (after.sectorLine params (sectorSet params refill.request.vpn)
        (refilledWay params refill cache).toNat) = true := by
    rw [written]
    exact servesRefill_codedSector params registers refill cache.code
  have lower (way : Nat) (below : way < (refilledWay params refill cache).toNat) :
      after.sectorLine params (sectorSet params refill.request.vpn) way =
        cache.sectorLine params (sectorSet params refill.request.vpn) way := by
    rw [line (Nat.lt_trans below target), if_neg (Nat.ne_of_gt below)]
  rw [findSector_of_sameSector same, firstHit_of_written target served lower, Option.map_some,
    written]
  unfold currentSector olderSector
  cases firstHit (refilledWay params refill cache).toNat
      (cache.sectorLine params (sectorSet params refill.request.vpn))
      (servesRefill registers refill) with
  | some hit => rfl
  | none => rfl

/-- No superpage that covers a page of the sector serves the mode of a refill. -/
def Uncovered (registers : Registers) (refill : Refill) (cache : Cache) : Prop :=
  ∀ line ∈ cache.superpages, line.tag.serves registers refill.request.mode = true →
    ∀ vpn, sectorTag vpn = sectorTag refill.request.vpn →
      line.tag.region ≠ regionTag vpn line.level

theorem uncovered_of_invalid
    (registers : Registers) (refill : Refill)
    (invalid : ∀ line ∈ cache.superpages, line.tag.valid = false) :
    Uncovered registers refill cache := by
  intro line member served
  have valid := (LineTag.serves_spec served).1
  rw [invalid line member] at valid
  cases valid

theorem Uncovered.findSuperpage
    {refill : Refill} (uncovered : Uncovered registers refill cache) {request : Request}
    (same : SameSector refill request) : cache.findSuperpage registers request = none := by
  rw [← Option.not_isSome_iff_eq_none]
  unfold Cache.findSuperpage
  rw [isSome_firstHit_iff]
  rintro ⟨way, inside, found⟩
  rw [Bool.and_eq_true, beq_iff_eq, same.mode] at found
  unfold superpageLine at found
  rw [Array.getD_eq_getD_getElem?, Array.getElem?_eq_getElem inside] at found
  exact uncovered _ (Array.getElem_mem inside) found.1 request.vpn same.sector found.2

/-- The sectors that are stored and the one that was read for a lookup on its way match
their codes. -/
structure SectorsCoded (cache : Cache) : Prop where
  stored : ∀ line ∈ cache.sectors, line.Coded cache.code
  reading : ∀ read, cache.reading = some read → ∀ hit, read.sector = some hit →
    hit.line.Coded cache.code

theorem SectorsCoded.uncorrupted
    (coded : SectorsCoded cache) {read : ReadLookup} (found : cache.reading = some read) :
    read.sectorCorrupted cache.code = false := by
  refine Bool.eq_false_iff.2 fun corrupted => ?_
  obtain ⟨hit, member, error⟩ := (Option.any_eq_true _ _).1 corrupted
  rw [(LineCode.hasError_eq_false_iff _ _ _).2 (coded.reading read found hit member)] at error
  cases error

/-- All lookups of the sector of a refill find one line and no superpage, and no check is
going to clear a set. -/
structure Serving (params : Params) (registers : Registers) (refill : Refill)
    (line : SectorLine) (cache : Cache) : Prop where
  sector : ∀ request, SameSector refill request →
    (cache.findSector params registers request).map (·.line) = some line
  alone : ∀ request, SameSector refill request → cache.findSuperpage registers request = none
  coded : SectorsCoded cache

section Storages

variable {refill : Refill} {line : SectorLine}

theorem Serving.of_same
    (serving : Serving params registers refill line cache)
    (sectors : after.sectors = cache.sectors) (superpages : after.superpages = cache.superpages)
    (code : after.code = cache.code)
    (reading : ∀ read, after.reading = some read → ∀ hit, read.sector = some hit →
      hit.line.Coded cache.code) :
    Serving params registers refill line after where
  sector := by
    unfold Cache.findSector Cache.sectorLine
    rw [sectors]
    exact serving.sector
  alone := by
    unfold Cache.findSuperpage Cache.superpageLine
    rw [superpages]
    exact serving.alone
  coded := by
    constructor
    · rw [sectors, code]
      exact serving.coded.stored
    · rw [code]
      exact reading

/-- The line that is read for a lookup is a stored one. -/
theorem Serving.read_coded
    (serving : Serving params registers refill line cache) (waiting : WaitingLookup) :
    ∀ hit, (Cache.read params registers waiting cache).sector = some hit →
      hit.line.Coded cache.code := by
  intro hit found
  rw [line_of_findSector found]
  exact getD_of_forall serving.coded.stored (SectorLine.coded_default cache.code) _

end Storages

/-! ## Codes after a refill -/

theorem LeafRefilled.coded
    {refill : Refill} (refilled : LeafRefilled params registers refill cache after)
    (coded : SectorsCoded cache) : SectorsCoded after := by
  constructor
  · intro line member
    rw [refilled.sectors] at member
    rw [refilled.code]
    rcases Array.mem_or_eq_of_mem_setIfInBounds member with old | new
    · exact coded.stored line old
    · rw [new]
      rfl
  · intro read found hit member
    obtain ⟨earlier, before, same⟩ := refilled.reading read found
    rw [refilled.code]
    exact coded.reading earlier before hit (same ▸ member)

/-- Without corruption from outside all sectors match their codes. -/
theorem Intact.sectorsCoded {code : LineCode} (intact : cache.Intact code) :
    SectorsCoded cache where
  stored := by
    rw [intact.uses]
    exact intact.sectors
  reading := by
    rw [intact.uses]
    exact fun read found hit member => (intact.reading read found).sector hit member

end PageWalk.Cache
