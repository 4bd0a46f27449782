import PageWalk.Proofs.Cache.Examination
import PageWalk.Proofs.Cache.Shape

/-!
# Which lines are kept where

A middle line or a sector lies in the set that its tag selects, so that a lookup that reads
one set finds what a search of the whole storage would find. Pointers are kept in the root
and middle storages, and only those that a walk can go on from; superpages and page faults
of the upper levels are kept beside them.
-/

namespace PageWalk

/-! ## Entries -/

/-- An entry that a walk goes on from at a level. -/
structure Pte.Points (mode : Mode) (addressBits : UInt32) (level : Nat) (pte : Pte) : Prop where
  valid : pte.valid = true
  pointer : pte.isLeaf = false
  sound : pte.pageFaultAt level = false
  inside : mode.accessFault pte addressBits = false

theorem Pte.valid_of_sound {pte : Pte} {level : Nat} (sound : pte.pageFaultAt level = false) :
    pte.valid = true := by
  unfold pageFaultAt at sound
  cases valid : pte.valid with
  | true => rfl
  | false =>
      rw [valid] at sound
      cases sound

/-- The page of a leaf that is no page fault is aligned to its level. -/
theorem Pte.aligned_of_sound
    {pte : Pte} {level : Nat} (leaf : pte.isLeaf = true)
    (sound : pte.pageFaultAt level = false) : pte.ppn &&& lowMask (levelShift level) = 0 := by
  unfold pageFaultAt at sound
  rw [leaf] at sound
  split at sound
  · cases sound
  · split at sound
    · cases sound
    · simpa using sound

namespace Cache

/-! ## What the storages keep -/

/-- The line holds the table page of an entry that a refill has brought, and that a walk
goes on from. -/
def KeepsPointer (params : Params) (brought : Refill → Prop) (level : Nat) (line : PointerLine) :
    Prop :=
  ∃ refill, brought refill ∧ refill.level = level ∧ refill.request.mode = line.tag.mode ∧
    line.tag.region = regionTag refill.request.vpn level ∧ line.ppn = refill.selected.ppn ∧
    refill.selected.Points line.tag.mode params.addressBits level

/-- The line holds the page of an upper entry that a refill has brought, aligned to its level
unless it is a page fault. -/
def KeepsSuperpage (brought : Refill → Prop) (line : SuperpageLine) : Prop :=
  ∃ refill, brought refill ∧ line.level = refill.level ∧ line.level < leafLevel ∧
    line.ppn = refill.selected.ppn ∧
    (line.translates = true → line.ppn &&& lowMask (levelShift line.level) = 0)

/-- What is kept in each storage. -/
def kept (params : Params) (brought : Refill → Prop) : LineFacts where
  root := KeepsPointer params brought 0
  middle := KeepsPointer params brought 1
  sector := fun _ => True
  superpage := KeepsSuperpage brought

theorem brings_kept
    {params : Params} {brought : Refill → Prop} {refill : Refill} (came : brought refill)
    (registers : Registers) : refill.Brings (kept params brought) params registers := by
  have points (level : Nat) (inside : refill.request.mode.accessFault refill.selected
        params.addressBits = false) (same : refill.level = level)
      (pointer : refill.selected.isLeaf = false)
      (sound : refill.selected.pageFaultAt refill.level = false) :
      refill.selected.Points refill.request.mode params.addressBits level := by
    rw [same] at sound
    exact ⟨Pte.valid_of_sound sound, pointer, sound, inside⟩
  constructor
  case root =>
    intro inside level pointer sound
    exact ⟨refill, came, level, rfl, rfl, rfl, points 0 inside level pointer sound⟩
  case middle =>
    intro inside level pointer sound code
    exact ⟨refill, came, level, rfl, rfl, rfl, points 1 inside level pointer sound⟩
  case sector => exact fun _ _ _ => trivial
  case superpage =>
    intro _ above ends
    refine ⟨refill, came, rfl, above, rfl, fun translates => ?_⟩
    have sound : refill.selected.pageFaultAt refill.level = false := by
      simpa using translates
    have leaf := ends.resolve_right (by rw [sound]; exact Bool.noConfusion)
    exact Pte.aligned_of_sound leaf sound

/-- A move that corrupts no line keeps facts that every refill brings. -/
theorem Stocked.perform
    {params : Params} {facts : LineFacts} {history : History} {move : Move}
    (stocked : history.cache.Stocked facts) (uncorrupted : move.corrupts = false)
    (brings : ∀ registers refill, move = .refill refill →
      refill.Brings facts params registers) :
    (history.perform params move).state.cache.Stocked facts := by
  have shelved := stocked.shelved
  have piped := stocked.piped
  cases move with
  | send lookup => exact stocked.send params lookup
  | tick => exact stocked.tick params history.registers
  | pop => exact stocked.pop params
  | refill refill =>
      rw [cache_perform_refill]
      rcases refill_cases params history.registers refill history.cache with
        ⟨_, level, _⟩ | ⟨_, _, _, state⟩
      · exact stocked.refill (brings history.registers refill rfl) level
      · rw [state]
        exact ⟨{ shelved with }, { piped with }⟩
  | fence fence => exact stocked.fence params history.registers fence
  | flush => exact stocked.flush
  | install registers => exact stocked
  | corrupt level set way => cases uncorrupted

/-! ## Lines in their sets -/

/-- Every valid line lies in the set that its region selects. -/
def Placed {Line : Type} (sets ways : UInt32) (tag : Line → LineTag) (lines : Array Line) :
    Prop :=
  ∀ (position : Nat) (line : Line), lines[position]? = some line → (tag line).valid = true →
    position ∈ setPositions ways (selectedSet sets (tag line).region)

namespace Placed

variable {Line : Type} {sets ways : UInt32} {tag : Line → LineTag} {lines after : Array Line}

theorem replicate
    {line : Line} (invalid : (tag line).valid = false) (count : Nat) :
    Placed sets ways tag (Array.replicate count line) := by
  intro position other found valid
  rw [Array.getElem?_replicate] at found
  split at found
  · cases found
    rw [invalid] at valid
    cases valid
  · cases found

/-- Lines that lose their validity lie nowhere. -/
theorem of_valid
    (placed : Placed sets ways tag lines)
    (before : ∀ (position : Nat) (line : Line), after[position]? = some line →
      (tag line).valid = true → lines[position]? = some line) :
    Placed sets ways tag after :=
  fun position line found valid => placed position line (before position line found valid) valid

/-- A line is written to its own set. -/
theorem setIfInBounds
    (placed : Placed sets ways tag lines) {line : Line} {index : Nat}
    (own : index ∈ setPositions ways (selectedSet sets (tag line).region)) :
    Placed sets ways tag (lines.setIfInBounds index line) := by
  intro position other found valid
  rw [Array.getElem?_setIfInBounds] at found
  split at found
  · rename_i here
    split at found
    · cases found
      rw [← here]
      exact own
    · cases found
  · exact placed position other found valid

theorem invalidate
    (placed : Placed sets ways tag lines) {invalidate : Line → Line}
    (invalid : ∀ line, (tag (invalidate line)).valid = false) (select : Line → Bool) :
    Placed sets ways tag
      (lines.map fun line => if select line then invalidate line else line) := by
  refine placed.of_valid fun position line found valid => ?_
  rw [Array.getElem?_map] at found
  obtain ⟨before, stored, rfl⟩ := Option.map_eq_some_iff.1 found
  cases selected : select before with
  | true => simp [selected, invalid] at valid
  | false => simpa [selected] using stored

end Placed

/-- The policies of the coded storages name ways of their sets. -/
structure Fitted (params : Params) (cache : Cache) : Prop where
  middle : cache.middlePolicy.Fits params.middleWays
  sector : cache.sectorPolicy.Fits params.sectorWays

variable {params : Params} {cache after : Cache}

theorem Fitted.of_sameShape (fitted : Fitted params cache) (same : SameShape cache after) :
    Fitted params after :=
  ⟨same.fits .middle fitted.middle, same.fits .sector fitted.sector⟩

/-- The coded storages keep their lines in their sets. -/
structure Sorted (params : Params) (cache : Cache) : Prop where
  middles : Placed params.middleSets params.middleWays PointerLine.tag cache.middles
  sectors : Placed params.sectorSets params.sectorWays SectorLine.tag cache.sectors
  fitted : Fitted params cache

theorem sorted_of_create (created : Cache.create params = .ok cache) : Sorted params cache := by
  obtain ⟨_, _, _, _, _, _, middle, sector, _, rfl⟩ := create_spec created
  exact ⟨.replicate rfl _, .replicate rfl _,
    ⟨ReplacementPolicy.fits_of_create middle, ReplacementPolicy.fits_of_create sector⟩⟩

/-- The check of a lookup invalidates lines but moves none. -/
theorem Sorted.examined
    (sorted : Sorted params cache) {read : ReadLookup}
    (examined : Examined params read cache after) (fitted : Fitted params after) :
    Sorted params after := by
  refine ⟨sorted.middles.of_valid ?_, sorted.sectors.of_valid ?_, fitted⟩
  · intro position line found valid
    rw [examined.middles] at found
    split at found
    · obtain ⟨before, _, rfl⟩ := Option.map_eq_some_iff.1 found
      cases valid
    · exact found
  · intro position line found valid
    rw [examined.sectors] at found
    split at found
    · obtain ⟨before, _, rfl⟩ := Option.map_eq_some_iff.1 found
      cases valid
    · exact found

theorem Sorted.tick (sorted : Sorted params cache) (registers : Registers) :
    Sorted params (Cache.tick params registers cache).state := by
  have fitted := sorted.fitted.of_sameShape (sameShape_tick params registers cache)
  cases next : nextChecked? params registers cache with
  | some read => exact sorted.examined (tick_of_checked next) fitted
  | none =>
      have same := tick_of_unchecked next
      refine ⟨?_, ?_, fitted⟩
      · rw [same.middles]
        exact sorted.middles
      · rw [same.sectors]
        exact sorted.sectors

private theorem Sorted.refillMiddle
    (sorted : Sorted params cache) (registers : Registers) (refill : Refill) :
    Sorted params (refillMiddle params registers refill cache).state := by
  have chosen := sorted.fitted.middle.choose (middleSet params refill.request.vpn) fun way =>
    (cache.middleLine params (middleSet params refill.request.vpn) way).tag.valid
  refine ⟨sorted.middles.setIfInBounds ?_, sorted.sectors,
    { sorted.fitted with middle := chosen.2.access _ _ }⟩
  exact mem_setPositions_of_lt (middleSet params refill.request.vpn) chosen.1

private theorem Sorted.refillSector
    (sorted : Sorted params cache) (registers : Registers) (refill : Refill) :
    Sorted params (refillSector params registers refill cache).state := by
  have chosen := sorted.fitted.sector.choose (sectorSet params refill.request.vpn) fun way =>
    (cache.sectorLine params (sectorSet params refill.request.vpn) way).tag.valid
  refine ⟨sorted.middles, sorted.sectors.setIfInBounds ?_,
    { sorted.fitted with sector := chosen.2.access _ _ }⟩
  exact mem_setPositions_of_lt (sectorSet params refill.request.vpn) chosen.1

theorem Sorted.store
    (sorted : Sorted params cache) (registers : Registers) (refill : Refill) :
    Sorted params (Cache.store params registers refill cache).state := by
  have fitted := sorted.fitted
  unfold Cache.store
  split
  · split
    · exact ⟨sorted.middles, sorted.sectors, { fitted with }⟩
    · split
      · exact ⟨sorted.middles, sorted.sectors, { fitted with }⟩
      · exact sorted.refillMiddle registers refill
  · split
    · exact sorted.refillSector registers refill
    · exact sorted

theorem Sorted.refill
    (sorted : Sorted params cache) (registers : Registers) (refill : Refill) :
    Sorted params (Cache.refill params registers refill cache).state := by
  rcases refill_cases params registers refill cache with ⟨_, _, state⟩ | ⟨_, _, _, state⟩
  · have before : Sorted params { cache with refilled := true } :=
      ⟨sorted.middles, sorted.sectors, { sorted.fitted with }⟩
    have stored := before.store registers refill
    rw [state]
    exact ⟨stored.middles, stored.sectors, { stored.fitted with }⟩
  · rw [state]
    exact ⟨sorted.middles, sorted.sectors, { sorted.fitted with }⟩

theorem Sorted.perform
    {history : History} {move : Move} (sorted : Sorted params history.cache)
    (uncorrupted : move.corrupts = false) :
    Sorted params (history.perform params move).state.cache := by
  have fitted := sorted.fitted
  cases move with
  | send lookup =>
      change Sorted params (Cache.send params lookup history.cache).2.state
      obtain ⟨_, ⟨_, _, state⟩ | ⟨_, _, state⟩⟩ := send_cases params lookup history.cache
      all_goals
        rw [state]
        exact ⟨sorted.middles, sorted.sectors, { fitted with }⟩
  | tick => exact sorted.tick history.registers
  | pop =>
      change Sorted params (Cache.pop params history.cache).state
      unfold Cache.pop
      split
      · exact ⟨sorted.middles, sorted.sectors, { fitted with }⟩
      · exact sorted
  | refill refill =>
      rw [cache_perform_refill]
      exact sorted.refill history.registers refill
  | fence fence =>
      exact ⟨sorted.middles.invalidate (fun _ => rfl) _,
        sorted.sectors.invalidate (fun _ => rfl) _, { fitted with }⟩
  | flush => exact ⟨sorted.middles, sorted.sectors, { fitted with }⟩
  | install registers => exact sorted
  | corrupt level set way => cases uncorrupted

/-! ## One set for all -/

/-- A search of the set that a region selects finds a line of the region if there is any. -/
private theorem firstHit_of_placed
    {Line : Type} {sets ways : UInt32} {tag : Line → LineTag} {lines : Array Line}
    (placed : Placed sets ways tag lines) {missing : Line}
    (invalid : (tag missing).valid = false) (registers : Registers) (mode : Mode)
    (region : Word) :
    (firstHit ways.toNat
        (fun way =>
          lines.getD (selectedSet sets region * ways + UInt32.ofNat way).toNat missing)
        fun line => (tag line).serves registers mode && (tag line).region == region).isSome =
          true ↔
      ∃ line ∈ lines, (tag line).serves registers mode = true ∧ (tag line).region = region := by
  rw [isSome_firstHit_iff]
  simp only [Bool.and_eq_true, beq_iff_eq, Array.getD_eq_getD_getElem?]
  constructor
  · rintro ⟨way, _, served, same⟩
    cases found : lines[(selectedSet sets region * ways + UInt32.ofNat way).toNat]? with
    | none =>
        rw [found] at served
        have valid := (LineTag.serves_spec served).1
        exact absurd valid (by simp [invalid])
    | some line =>
        rw [found] at served same
        exact ⟨line, Array.mem_of_getElem? found, served, same⟩
  · rintro ⟨line, member, served, rfl⟩
    obtain ⟨position, found⟩ := Array.mem_iff_getElem?.1 member
    have here := placed position line found (LineTag.serves_spec served).1
    obtain ⟨way, inside, rfl⟩ := List.mem_map.1 here
    refine ⟨way, List.mem_range.1 inside, ?_⟩
    rw [found]
    exact ⟨served, rfl⟩

theorem Sorted.isSome_findMiddle_iff
    (sorted : Sorted params cache) (registers : Registers) (request : Request) :
    (cache.findMiddle params registers request).isSome = true ↔
      ∃ line ∈ cache.middles, line.tag.serves registers request.mode = true ∧
        line.tag.region = regionTag request.vpn 1 :=
  firstHit_of_placed sorted.middles rfl registers request.mode (regionTag request.vpn 1)

theorem Sorted.isSome_findSector_iff
    (sorted : Sorted params cache) (registers : Registers) (request : Request) :
    (cache.findSector params registers request).isSome = true ↔
      ∃ line ∈ cache.sectors, line.tag.serves registers request.mode = true ∧
        line.tag.region = sectorTag request.vpn :=
  firstHit_of_placed sorted.sectors rfl registers request.mode (sectorTag request.vpn)

/-- What a walk does not go on from never comes to the pointers. -/
theorem pointers_of_refill
    (registers : Registers) {refill : Refill} (upper : refill.level < leafLevel)
    (ends : refill.selected.isLeaf = true ∨ refill.selected.pageFaultAt refill.level = true ∨
      refill.request.mode.accessFault refill.selected params.addressBits = true) :
    let after := (Cache.refill params registers refill cache).state
    after.roots = cache.roots ∧ after.middles = cache.middles := by
  rcases refill_cases params registers refill cache with ⟨taken, _, state⟩ | ⟨_, _, _, state⟩
  · have inside : refill.request.mode.accessFault refill.selected params.addressBits ≠ true := by
      unfold takes at taken
      simp only [Bool.and_eq_true, Bool.not_eq_true'] at taken
      rw [taken.1.2]
      exact Bool.noConfusion
    have stops : (refill.selected.isLeaf || refill.selected.pageFaultAt refill.level) = true := by
      rcases ends with leaf | fault | outside
      · rw [leaf, Bool.true_or]
      · rw [fault, Bool.or_true]
      · exact absurd outside inside
    dsimp only
    rw [state, store, if_pos upper, if_pos stops]
    exact ⟨rfl, rfl⟩
  · dsimp only
    rw [state]
    exact ⟨rfl, rfl⟩

/-! ## Histories -/

/-- A cache whose lines lie where lookups search for them, and whose pointers and superpages
are what the refills have brought. -/
structure Arranged (params : Params) (brought : Refill → Prop) (cache : Cache) : Prop where
  middleSets : Placed params.middleSets params.middleWays PointerLine.tag cache.middles
  sectorSets : Placed params.sectorSets params.sectorWays SectorLine.tag cache.sectors
  /-- With a power of two sets, the number of the set is that of the region modulo the sets. -/
  middleNumbers : isPowerOfTwo params.middleSets.toUInt64 = true →
    ∀ (position : Nat) (line : PointerLine), cache.middles[position]? = some line →
      line.tag.valid = true → position ∈ setPositions params.middleWays
        (UInt32.ofNat (line.tag.region.toNat % params.middleSets.toNat))
  sectorNumbers : isPowerOfTwo params.sectorSets.toUInt64 = true →
    ∀ (position : Nat) (line : SectorLine), cache.sectors[position]? = some line →
      line.tag.valid = true → position ∈ setPositions params.sectorWays
        (UInt32.ofNat (line.tag.region.toNat % params.sectorSets.toNat))
  middleHits : ∀ registers request,
    (cache.findMiddle params registers request).isSome = true ↔
      ∃ line ∈ cache.middles, line.tag.serves registers request.mode = true ∧
        line.tag.region = regionTag request.vpn 1
  sectorHits : ∀ registers request,
    (cache.findSector params registers request).isSome = true ↔
      ∃ line ∈ cache.sectors, line.tag.serves registers request.mode = true ∧
        line.tag.region = sectorTag request.vpn
  roots : ∀ line ∈ cache.roots, line.tag.valid = true → KeepsPointer params brought 0 line
  middles : ∀ line ∈ cache.middles, line.tag.valid = true → KeepsPointer params brought 1 line
  superpages : ∀ line ∈ cache.superpages, line.tag.valid = true → KeepsSuperpage brought line

theorem Sorted.arranged
    {brought : Refill → Prop} (sorted : Sorted params cache)
    (stocked : cache.Stocked (kept params brought)) : Arranged params brought cache := by
  have shelved := stocked.shelved
  constructor
  case middleSets => exact sorted.middles
  case sectorSets => exact sorted.sectors
  case middleNumbers =>
    intro power position line found valid
    rw [← selectedSet_eq_mod power]
    exact sorted.middles position line found valid
  case sectorNumbers =>
    intro power position line found valid
    rw [← selectedSet_eq_mod power]
    exact sorted.sectors position line found valid
  case middleHits => exact sorted.isSome_findMiddle_iff
  case sectorHits => exact sorted.isSome_findSector_iff
  case roots =>
    intro line member
    obtain ⟨position, found⟩ := Array.mem_iff_getElem?.1 member
    exact shelved.roots position line found
  case middles =>
    intro line member
    obtain ⟨position, found⟩ := Array.mem_iff_getElem?.1 member
    exact shelved.middles position line found
  case superpages =>
    intro line member
    obtain ⟨position, found⟩ := Array.mem_iff_getElem?.1 member
    exact shelved.superpages position line found

/-- At every point of a history in which no line is corrupted, every valid middle line and
sector lies in the set that its tag selects, so that a lookup hits one of its set exactly if
the storage holds any; pointers and superpages are entries of refills that belong to their
storage; and an upper entry that a walk does not go on from leaves the pointers as they
are. -/
theorem arranged_of_run
    (created : Cache.create params = .ok cache) (registers : Registers) {moves : List Move}
    (uncorrupted : ∀ move ∈ moves, move.corrupts = false) :
    let after := (History.run params moves ⟨cache, registers, [], []⟩).state.cache
    Arranged params (fun refill => .refill refill ∈ moves) after ∧
      ∀ registers refill, refill.level < leafLevel →
        refill.selected.isLeaf = true ∨ refill.selected.pageFaultAt refill.level = true ∨
          refill.request.mode.accessFault refill.selected params.addressBits = true →
        let refilled := (Cache.refill params registers refill after).state
        refilled.roots = after.roots ∧ refilled.middles = after.middles := by
  intro after
  let brought (refill : Refill) : Prop := .refill refill ∈ moves
  let Kept (history : History) : Prop :=
    Sorted params history.cache ∧ history.cache.Stocked (kept params brought)
  have start : Kept ⟨cache, registers, [], []⟩ :=
    ⟨sorted_of_create created, (stocked_of_create created).1⟩
  have step (move : Move) (member : move ∈ moves) (current : History) (before : Kept current) :
      Kept (current.perform params move).state := by
    have intact := uncorrupted move member
    refine ⟨before.1.perform intact, before.2.perform intact ?_⟩
    rintro registers refill rfl
    exact brings_kept member registers
  have reached : Kept (History.run params moves ⟨cache, registers, [], []⟩).state :=
    Outcome.forEach_state_induction step start
  exact ⟨reached.1.arranged reached.2,
    fun registers _ upper ends => pointers_of_refill registers upper ends⟩

/-- Two pointers of one set, a superpage and a page fault of an upper level. -/
theorem arranged_of_small_run :
    let pointer (vpn raw : Word) : Move :=
      .refill { level := 1, request := { vpn := vpn }, selected := ⟨raw⟩ }
    let moves : List Move :=
      [pointer 5 0x801, pointer 0x805 0xc01, pointer 0x1005 0x800cf, pointer 0x2005 0, .tick]
    ∃ cache, Cache.create .small = .ok cache ∧ (∀ move ∈ moves, move.corrupts = false) ∧
      let after := (History.run .small moves ⟨cache, {}, [], []⟩).state.cache
      (after.validMiddles, after.validSuperpages) = (2, 2) ∧
        Arranged .small (fun refill => .refill refill ∈ moves) after ∧
        ∀ registers refill, refill.level < leafLevel →
          refill.selected.isLeaf = true ∨ refill.selected.pageFaultAt refill.level = true ∨
            refill.request.mode.accessFault refill.selected Params.small.addressBits = true →
          let refilled := (Cache.refill .small registers refill after).state
          refilled.roots = after.roots ∧ refilled.middles = after.middles := by
  intro pointer moves
  have created : Cache.create .small = .ok _ := rfl
  have uncorrupted : ∀ move ∈ moves, move.corrupts = false := by
    simp [moves, pointer, Move.corrupts]
  exact ⟨_, created, uncorrupted, by decide +kernel, arranged_of_run created {} uncorrupted⟩

end Cache

end PageWalk
