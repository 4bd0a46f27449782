import PageWalk.Proofs.Cache.History
import PageWalk.Proofs.Geometry

/-!
# What a fence clears

The lines that a fence is for, said by their mode, their identifiers and the pages that
they cover. A fence empties the pipeline and takes the valid bits of these lines, and it
changes nothing else; so fences can be repeated and exchanged, a wider fence clears more,
and as long as nothing is refilled no lookup is answered from a line that was cleared.
-/

namespace PageWalk

/-! ## The lines that a fence is for -/

/-- The translations that a fence is about: guest physical ones, those of the guest that
runs, or those of the host. -/
inductive Fence.IsAbout (fence : Fence) (registers : Registers) (tag : LineTag) : Prop
  | guestPhysical
      (asked : fence.guestPhysical = true)
      (mode : tag.mode = .stageTwo)
  | guest
      (first : fence.guestPhysical = false)
      (asked : fence.guestVirtual = true ∨ registers.virtual = true)
      (mode : tag.mode = .stageOne ∨ tag.mode = .nested)
      (machine : tag.vmid = registers.vmid)
  | host
      (first : fence.guestPhysical = false)
      (unasked : fence.guestVirtual = false)
      (outside : registers.virtual = false)
      (mode : tag.mode = .direct)

/-- The identifiers that a fence names: all of them, a virtual machine, or an address
space, to which a global line does not belong. -/
inductive Fence.Identifies (fence : Fence) (tag : LineTag) : Prop
  | every (asked : fence.everyIdentifier = true)
  | machine
      (physical : fence.guestPhysical = true)
      (same : tag.vmid = fence.identifier)
  | space
      (virtual : fence.guestPhysical = false)
      (same : tag.asid = fence.identifier)
      (own : tag.global = false)

/-- A fence is for a line that covers the pages `covered`. -/
structure Fence.Targets (fence : Fence) (registers : Registers) (tag : LineTag)
    (covered : Word → Prop) : Prop where
  about : fence.IsAbout registers tag
  identified : fence.Identifies tag
  address : fence.everyAddress = true ∨ covered (fence.address >>> 12)

/-- The pages that a fence for one address finds under a pointer: none. -/
def PointerLine.Covers (_ : PointerLine) (_ : Word) : Prop :=
  False

def SectorLine.Covers (line : SectorLine) (vpn : Word) : Prop :=
  InRegion vpn line.tag.region 3

def SuperpageLine.Covers (line : SuperpageLine) (vpn : Word) : Prop :=
  InRegion vpn line.tag.region (openBits line.level)

def Fence.TargetsPointer (fence : Fence) (registers : Registers) (line : PointerLine) : Prop :=
  fence.Targets registers line.tag line.Covers

def Fence.TargetsSector (fence : Fence) (registers : Registers) (line : SectorLine) : Prop :=
  fence.Targets registers line.tag line.Covers

def Fence.TargetsSuperpage (fence : Fence) (registers : Registers) (line : SuperpageLine) :
    Prop :=
  fence.Targets registers line.tag line.Covers

theorem Fence.selectsMode_iff (fence : Fence) (registers : Registers) (tag : LineTag) :
    fence.selectsMode registers tag = true ↔ fence.IsAbout registers tag := by
  unfold selectsMode
  constructor
  · intro selected
    cases physical : fence.guestPhysical with
    | true =>
        rw [if_pos physical, beq_iff_eq] at selected
        exact .guestPhysical physical selected
    | false =>
        rw [if_neg (by rw [physical]; exact Bool.noConfusion)] at selected
        by_cases guest : (fence.guestVirtual || registers.virtual) = true
        · rw [if_pos guest] at selected
          simp only [Bool.and_eq_true, Bool.or_eq_true, beq_iff_eq] at selected guest
          exact .guest physical guest selected.1 selected.2
        · rw [if_neg guest, beq_iff_eq] at selected
          simp only [Bool.or_eq_true, not_or, Bool.not_eq_true] at guest
          exact .host physical guest.1 guest.2 selected
  · rintro (⟨asked, mode⟩ | ⟨first, asked, mode, machine⟩ | ⟨first, unasked, outside, mode⟩)
    · simp [asked, mode]
    · simp [first, asked, mode, machine]
    · simp [first, unasked, outside, mode]

theorem Fence.selectsSpace_iff (fence : Fence) (tag : LineTag) :
    fence.selectsSpace tag = true ↔ fence.Identifies tag := by
  unfold selectsSpace
  constructor
  · intro selected
    rw [Bool.or_eq_true] at selected
    rcases selected with every | named
    · exact .every every
    · cases physical : fence.guestPhysical with
      | true => exact .machine physical (by simpa [physical] using named)
      | false =>
          have own : tag.asid = fence.identifier ∧ tag.global = false := by
            simpa [physical] using named
          exact .space physical own.1 own.2
  · rintro (asked | ⟨physical, same⟩ | ⟨virtual, same, own⟩)
    · simp [asked]
    · simp [physical, same]
    · simp [virtual, same, own]

/-- A fence selects the valid lines that it is for. -/
theorem Fence.selects_iff
    (fence : Fence) (registers : Registers) (tag : LineTag) {coversAddress : Bool}
    {covered : Word → Prop} (covers : coversAddress = true ↔ covered fence.vpn) :
    fence.selects registers tag coversAddress = true ↔
      tag.valid = true ∧ fence.Targets registers tag covered := by
  unfold selects
  simp only [Bool.and_eq_true, Bool.or_eq_true, selectsMode_iff, selectsSpace_iff, covers]
  constructor
  · rintro ⟨⟨⟨valid, about⟩, address⟩, identified⟩
    exact ⟨valid, about, identified, address⟩
  · rintro ⟨valid, about, identified, address⟩
    exact ⟨⟨⟨valid, about⟩, address⟩, identified⟩

/-- A fence with all addresses or all identifiers turned on. -/
def Fence.widen (fence : Fence) (addresses identifiers : Bool) : Fence :=
  { fence with
    everyAddress := fence.everyAddress || addresses
    everyIdentifier := fence.everyIdentifier || identifiers }

theorem Fence.Targets.widen
    {fence : Fence} {registers : Registers} {tag : LineTag} {covered : Word → Prop}
    (targets : fence.Targets registers tag covered) (addresses identifiers : Bool) :
    (fence.widen addresses identifiers).Targets registers tag covered where
  about := by
    cases targets.about with
    | guestPhysical asked mode => exact .guestPhysical asked mode
    | guest first asked mode machine => exact .guest first asked mode machine
    | host first unasked outside mode => exact .host first unasked outside mode
  identified := by
    cases targets.identified with
    | every asked => exact .every (Bool.or_eq_true_iff.2 (.inl asked))
    | machine physical same => exact .machine physical same
    | space virtual same own => exact .space virtual same own
  address := targets.address.imp_left fun every => Bool.or_eq_true_iff.2 (.inl every)

namespace Cache

theorem fencesPointer_iff (fence : Fence) (registers : Registers) (line : PointerLine) :
    fencesPointer fence registers line = true ↔
      line.tag.valid = true ∧ fence.TargetsPointer registers line :=
  fence.selects_iff registers line.tag (by simp [PointerLine.Covers])

theorem fencesSector_iff (fence : Fence) (registers : Registers) (line : SectorLine) :
    fencesSector fence registers line = true ↔
      line.tag.valid = true ∧ fence.TargetsSector registers line := by
  refine fence.selects_iff registers line.tag ?_
  rw [beq_iff_eq, eq_comm]
  exact sectorTag_eq_iff fence.vpn line.tag.region

theorem fencesSuperpage_iff (fence : Fence) (registers : Registers) (line : SuperpageLine) :
    fencesSuperpage fence registers line = true ↔
      line.tag.valid = true ∧ fence.TargetsSuperpage registers line := by
  refine fence.selects_iff registers line.tag ?_
  rw [beq_iff_eq, eq_comm]
  exact regionTag_eq_iff fence.vpn line.tag.region line.level

/-! ## One storage -/

/-- The valid bits of some lines are taken, and nothing else happens to a storage. -/
structure ClearsExactly {Line : Type} (invalidate : Line → Line) (targeted : Line → Prop)
    (before after : Array Line) : Prop where
  size : after.size = before.size
  cleared : ∀ (index : Nat) (line : Line), before[index]? = some line → targeted line →
    after[index]? = some (invalidate line)
  kept : ∀ (index : Nat) (line : Line), before[index]? = some line → ¬ targeted line →
    after[index]? = some line

/-- The valid lines of a storage are valid lines of another one, at the same places. -/
def ValidWithin {Line : Type} (tag : Line → LineTag) (lines others : Array Line) : Prop :=
  ∀ (index : Nat) (line : Line), lines[index]? = some line → (tag line).valid = true →
    others[index]? = some line

section Storage

variable {Line : Type} {tag : Line → LineTag} {invalidate : Line → Line}
  {select other : Line → Bool} {targeted : Line → Prop}

/-- The lines that pass a test lose their valid bit. -/
def sweep (invalidate : Line → Line) (select : Line → Bool) (lines : Array Line) : Array Line :=
  lines.map fun line => if select line then invalidate line else line

/-- A line that is invalid already has no valid bit to lose. -/
theorem clearsExactly_sweep
    (tag : Line → LineTag) (idle : ∀ line, (tag line).valid = false → invalidate line = line)
    (selects : ∀ line, select line = true ↔ (tag line).valid = true ∧ targeted line)
    (lines : Array Line) :
    ClearsExactly invalidate targeted lines (sweep invalidate select lines) where
  size := Array.size_map
  cleared := by
    intro index line found target
    unfold sweep
    rw [Array.getElem?_map, found, Option.map_some]
    cases valid : (tag line).valid with
    | true => rw [if_pos ((selects line).2 ⟨valid, target⟩)]
    | false => rw [idle line valid, ite_self]
  kept := by
    intro index line found spared
    unfold sweep
    rw [Array.getElem?_map, found, Option.map_some,
      if_neg fun selected => spared ((selects line).1 selected).2]

theorem sweep_sweep
    (invalid : ∀ line, select (invalidate line) = false) (lines : Array Line) :
    sweep invalidate select (sweep invalidate select lines) = sweep invalidate select lines := by
  unfold sweep
  rw [Array.map_map]
  refine Array.map_congr_left fun line _ => ?_
  simp only [Function.comp_apply]
  by_cases selected : select line = true
  · simp only [selected, if_true, invalid line, Bool.false_eq_true, if_false]
  · rw [if_neg selected, if_neg selected]

/-- Whether a line is selected does not depend on what another sweep did, as long as it
stays valid. -/
theorem sweep_comm
    (invalid : ∀ line, select (invalidate line) = false)
    (otherInvalid : ∀ line, other (invalidate line) = false) (lines : Array Line) :
    sweep invalidate other (sweep invalidate select lines) =
      sweep invalidate select (sweep invalidate other lines) := by
  unfold sweep
  rw [Array.map_map, Array.map_map]
  refine Array.map_congr_left fun line _ => ?_
  simp only [Function.comp_apply]
  by_cases first : select line = true <;> by_cases second : other line = true <;>
    simp only [first, second, invalid, otherInvalid, if_true, Bool.false_eq_true, if_false]

/-- A sweep that selects more leaves fewer lines valid. -/
theorem validWithin_sweep
    (invalid : ∀ line, (tag (invalidate line)).valid = false)
    (more : ∀ line, select line = true → other line = true) (lines : Array Line) :
    ValidWithin tag (sweep invalidate other lines) (sweep invalidate select lines) := by
  intro index line found valid
  unfold sweep at found ⊢
  rw [Array.getElem?_map] at found ⊢
  obtain ⟨before, beforeFound, made⟩ := Option.map_eq_some_iff.1 found
  rw [beforeFound, Option.map_some]
  by_cases wider : other before = true
  · rw [if_pos wider] at made
    rw [← made, invalid before] at valid
    cases valid
  · rw [if_neg wider] at made
    rw [if_neg fun narrower => wider (more before narrower), made]

end Storage

/-! ## The cache -/

/-- A fence empties the pipeline and takes the valid bits of the lines that it is for;
refills are dropped for the rest of the step. -/
structure FencedTo (fence : Fence) (registers : Registers) (before after : Cache) : Prop where
  roots : ClearsExactly PointerLine.invalidate (fence.TargetsPointer registers)
    before.roots after.roots
  middles : ClearsExactly PointerLine.invalidate (fence.TargetsPointer registers)
    before.middles after.middles
  sectors : ClearsExactly SectorLine.invalidate (fence.TargetsSector registers)
    before.sectors after.sectors
  superpages : ClearsExactly SuperpageLine.invalidate (fence.TargetsSuperpage registers)
    before.superpages after.superpages
  rest : after =
    { before with
      roots := after.roots
      middles := after.middles
      sectors := after.sectors
      superpages := after.superpages
      waiting := none
      reading := none
      checked := none
      answer := none
      flushed := true }

/-- The valid lines of a cache are valid lines of another one, at the same places. -/
structure StillValidIn (cache other : Cache) : Prop where
  roots : ValidWithin (·.tag) cache.roots other.roots
  middles : ValidWithin (·.tag) cache.middles other.middles
  sectors : ValidWithin (·.tag) cache.sectors other.sectors
  superpages : ValidWithin (·.tag) cache.superpages other.superpages

/-- A line was there at the time of a fence, valid and not one that the fence is for.
Corruption may have changed what it holds since, but not its tag. -/
def spared (fence : Fence) (registers : Registers) (before : Cache) : LineFacts where
  root := fun line => line ∈ before.roots ∧ ¬ fence.TargetsPointer registers line
  middle := fun line => ¬ fence.TargetsPointer registers line ∧
    ∃ old ∈ before.middles, old.tag = line.tag
  sector := fun line => ¬ fence.TargetsSector registers line ∧
    ∃ old ∈ before.sectors, old.tag = line.tag
  superpage := fun line => line ∈ before.superpages ∧ ¬ fence.TargetsSuperpage registers line

private theorem pointer_invalidate_of_invalid
    (line : PointerLine) (invalid : line.tag.valid = false) : line.invalidate = line := by
  obtain ⟨⟨⟩⟩ := line
  cases invalid
  rfl

private theorem sector_invalidate_of_invalid
    (line : SectorLine) (invalid : line.tag.valid = false) : line.invalidate = line := by
  obtain ⟨⟨⟩⟩ := line
  cases invalid
  rfl

private theorem superpage_invalidate_of_invalid
    (line : SuperpageLine) (invalid : line.tag.valid = false) : line.invalidate = line := by
  obtain ⟨⟨⟩⟩ := line
  cases invalid
  rfl

section Laws

variable (params : Params) (registers : Registers) (fence : Fence) (cache : Cache)

/-- A fence sweeps the four storages of the flushed cache. -/
theorem state_fence :
    (Cache.fence params registers fence cache).state =
      { cache.flush with
        roots := sweep PointerLine.invalidate (fencesPointer fence registers) cache.roots
        middles := sweep PointerLine.invalidate (fencesPointer fence registers) cache.middles
        sectors := sweep SectorLine.invalidate (fencesSector fence registers) cache.sectors
        superpages :=
          sweep SuperpageLine.invalidate (fencesSuperpage fence registers) cache.superpages } :=
  rfl

theorem fencedTo_fence :
    FencedTo fence registers cache (Cache.fence params registers fence cache).state where
  roots := clearsExactly_sweep (·.tag) pointer_invalidate_of_invalid
    (fencesPointer_iff fence registers) cache.roots
  middles := clearsExactly_sweep (·.tag) pointer_invalidate_of_invalid
    (fencesPointer_iff fence registers) cache.middles
  sectors := clearsExactly_sweep (·.tag) sector_invalidate_of_invalid
    (fencesSector_iff fence registers) cache.sectors
  superpages := clearsExactly_sweep (·.tag) superpage_invalidate_of_invalid
    (fencesSuperpage_iff fence registers) cache.superpages
  rest := rfl

theorem fence_fence :
    (Cache.fence params registers fence
      (Cache.fence params registers fence cache).state).state =
        (Cache.fence params registers fence cache).state := by
  rw [state_fence, state_fence]
  simp only [flush]
  rw [sweep_sweep (fun _ => rfl), sweep_sweep (fun _ => rfl), sweep_sweep (fun _ => rfl),
    sweep_sweep (fun _ => rfl)]

theorem fence_comm (other : Fence) :
    (Cache.fence params registers other
      (Cache.fence params registers fence cache).state).state =
        (Cache.fence params registers fence
          (Cache.fence params registers other cache).state).state := by
  rw [state_fence, state_fence, state_fence, state_fence]
  simp only [flush]
  rw [sweep_comm (fun _ => rfl) (fun _ => rfl) cache.roots,
    sweep_comm (fun _ => rfl) (fun _ => rfl) cache.middles,
    sweep_comm (fun _ => rfl) (fun _ => rfl) cache.sectors,
    sweep_comm (fun _ => rfl) (fun _ => rfl) cache.superpages]

theorem stillValidIn_widen (addresses identifiers : Bool) :
    StillValidIn
      (Cache.fence params registers (fence.widen addresses identifiers) cache).state
      (Cache.fence params registers fence cache).state where
  roots := validWithin_sweep (fun _ => rfl)
    (fun line => by
      rw [fencesPointer_iff, fencesPointer_iff]
      exact And.imp_right (Fence.Targets.widen · addresses identifiers)) cache.roots
  middles := validWithin_sweep (fun _ => rfl)
    (fun line => by
      rw [fencesPointer_iff, fencesPointer_iff]
      exact And.imp_right (Fence.Targets.widen · addresses identifiers)) cache.middles
  sectors := validWithin_sweep (fun _ => rfl)
    (fun line => by
      rw [fencesSector_iff, fencesSector_iff]
      exact And.imp_right (Fence.Targets.widen · addresses identifiers)) cache.sectors
  superpages := validWithin_sweep (fun _ => rfl)
    (fun line => by
      rw [fencesSuperpage_iff, fencesSuperpage_iff]
      exact And.imp_right (Fence.Targets.widen · addresses identifiers)) cache.superpages

end Laws

/-! ## Until the next refill -/

private theorem not_of_left
    {selected : Bool} {valid target : Prop} (selects : selected = true ↔ valid ∧ target)
    (left : selected = false) (holds : valid) : ¬ target := by
  intro targeted
  rw [selects.2 ⟨holds, targeted⟩] at left
  cases left

/-- What a fence leaves valid, it was not for. -/
theorem stocked_spared
    (params : Params) (registers : Registers) (fence : Fence) (cache : Cache) :
    Stocked (spared fence registers cache) (Cache.fence params registers fence cache).state := by
  let there : LineFacts :=
    { root := fun line => line.tag.valid = true ∧ line ∈ cache.roots
      middle := fun line => line.tag.valid = true ∧ line ∈ cache.middles
      sector := fun line => line.tag.valid = true ∧ line ∈ cache.sectors
      superpage := fun line => line.tag.valid = true ∧ line ∈ cache.superpages }
  have flushed : Stocked there cache.flush :=
    ⟨⟨fun _ _ found valid => ⟨valid, Array.mem_of_getElem? found⟩,
      fun _ _ found valid => ⟨valid, Array.mem_of_getElem? found⟩,
      fun _ _ found valid => ⟨valid, Array.mem_of_getElem? found⟩,
      fun _ _ found valid => ⟨valid, Array.mem_of_getElem? found⟩⟩,
      piped_of_empty rfl rfl rfl⟩
  have spares : FenceSpares fence registers there (spared fence registers cache) :=
    { root := fun line left ⟨valid, member⟩ =>
        ⟨member, not_of_left (fencesPointer_iff fence registers line) left valid⟩
      middle := fun line left ⟨valid, member⟩ =>
        ⟨not_of_left (fencesPointer_iff fence registers line) left valid, line, member, rfl⟩
      sector := fun line left ⟨valid, member⟩ =>
        ⟨not_of_left (fencesSector_iff fence registers line) left valid, line, member, rfl⟩
      superpage := fun line left ⟨valid, member⟩ =>
        ⟨member, not_of_left (fencesSuperpage_iff fence registers line) left valid⟩ }
  exact flushed.fence_spares params spares

/-- No refill has been written. -/
def History.Unrefilled (history : History) : Prop :=
  ∀ registers refill, .refilled registers refill ∉ history.changes

theorem History.unrefilled_of_nil
    {history : History} (unchanged : history.changes = []) : history.Unrefilled := by
  unfold Unrefilled
  rw [unchanged]
  exact fun _ _ => List.not_mem_nil

/-- A move that is no refill keeps facts about tags; what was refilled stays written down. -/
private theorem spared_perform
    {params : Params} {fence : Fence} {registers : Registers} {before : Cache}
    {history : History} (move : Move)
    (kept : history.Unrefilled → Stocked (spared fence registers before) history.cache) :
    (history.perform params move).state.Unrefilled →
      Stocked (spared fence registers before) (history.perform params move).state.cache := by
  intro unrefilled
  cases move with
  | send lookup => exact (kept unrefilled).send params lookup
  | tick => exact (kept unrefilled).tick params history.registers
  | pop => exact (kept unrefilled).pop params
  | refill refill =>
      rcases refill_cases params history.registers refill history.cache with
        ⟨taken, _, _⟩ | ⟨dropped, counters, refilled, state⟩
      · refine absurd ?_ (unrefilled history.registers refill)
        unfold History.perform
        simp only [Outcome.map_state, taken, if_true]
        exact List.mem_append_right _ List.mem_cons_self
      · have stocked : Stocked (spared fence registers before) history.cache := by
          refine kept ?_
          unfold History.perform at unrefilled
          simp only [Outcome.map_state, dropped, Bool.false_eq_true, if_false] at unrefilled
          exact unrefilled
        rw [cache_perform_refill, state]
        exact ⟨{ stocked.shelved with }, { stocked.piped with }⟩
  | fence other =>
      refine (kept fun under refill member => ?_).fence params history.registers other
      exact unrefilled under refill (List.mem_append_left _ member)
  | flush => exact (kept unrefilled).flush
  | install registers => exact kept unrefilled
  | corrupt level set way =>
      refine (kept unrefilled).corrupt params level set way ?_ ?_
      · rintro line other same ⟨free, old, member, sameOld⟩
        exact ⟨by rwa [Fence.TargetsPointer, ← same], old, member, sameOld.trans same⟩
      · rintro line other same ⟨free, old, member, sameOld⟩
        refine ⟨?_, old, member, sameOld.trans same⟩
        unfold Fence.TargetsSector SectorLine.Covers
        rw [← same]
        exact free

/-- A fence empties the pipeline and takes the valid bits of the lines that it is for, and
nothing else changes. Doing it again changes nothing, two fences can be exchanged, and a
wider one leaves fewer lines valid. Until a refill is written, all that lookups find, in a
hit or as a hint, are lines that the fence was not for. -/
theorem fence_laws
    (params : Params) (registers : Registers) (fence : Fence) (cache : Cache) :
    let perform := fun fence cache => (Cache.fence params registers fence cache).state
    let after := perform fence cache
    (Cache.fence params registers fence cache).fault = none ∧
      FencedTo fence registers cache after ∧
      perform fence after = after ∧
      (∀ other, perform other after = perform fence (perform other cache)) ∧
      (∀ addresses identifiers,
        StillValidIn (perform (fence.widen addresses identifiers) cache) after) ∧
      ∀ moves, let history := (History.run params moves ⟨after, registers, [], []⟩).state
        history.Unrefilled → Stocked (spared fence registers cache) history.cache := by
  intro perform after
  refine ⟨rfl, fencedTo_fence params registers fence cache,
    fence_fence params registers fence cache, fence_comm params registers fence cache,
    stillValidIn_widen params registers fence cache, fun moves => ?_⟩
  let Kept (history : History) : Prop :=
    history.Unrefilled → Stocked (spared fence registers cache) history.cache
  have start : Kept ⟨after, registers, [], []⟩ :=
    fun _ => stocked_spared params registers fence cache
  have step (move : Move) (_ : move ∈ moves) (current : History) (kept : Kept current) :
      Kept (current.perform params move).state :=
    spared_perform move kept
  exact Outcome.forEach_state_induction step start

/-- One of two sectors is fenced; the other one and the pointer above them stay. -/
theorem fence_laws_of_small_run :
    let refill (vpn word : Word) : Refill :=
      { level := leafLevel, request := { vpn }, selected := ⟨word⟩
        block := Vector.replicate 8 word }
    let refills : List Move :=
      [.refill (refill 0x5 0x1dccf), .refill (refill 0x15 0x20ccf),
        .refill { level := 0, request := { vpn := 0x5 }, selected := ⟨0x801⟩ }]
    let lookups : List Move :=
      [.tick, .send { request := { vpn := 0x7 } }, .tick, .tick, .tick, .pop,
        .send { request := { vpn := 0x16 } }, .tick, .tick, .tick]
    let fence : Fence := { everyAddress := false, address := 0x5000 }
    let run (moves : List Move) (cache : Cache) : History :=
      (History.run .small moves ⟨cache, {}, [], []⟩).state
    let after (before : Cache) : Cache := (Cache.fence .small {} fence before).state
    ∃ cache before,
      Cache.create .small = .ok cache ∧ before = (run refills cache).cache ∧
      before.validSectors = 2 ∧ (after before).validSectors = 1 ∧
      (run (lookups.take 5) (after before)).cache.answer.map
          (fun answer => (answer.hit, answer.hint.root)) = some (false, true) ∧
      (run lookups (after before)).cache.answer.map
          (fun answer => (answer.hit, answer.stageOne.selected.ppn)) = some (true, 0x83) ∧
      (run lookups (after before)).changes = [] ∧ FencedTo fence {} before (after before) ∧
      Stocked (spared fence {} before) (run lookups (after before)).cache := by
  intro refill refills lookups fence run after
  have created : Cache.create .small = .ok _ := rfl
  have quiet (cache : Cache) (made : Cache.create .small = .ok cache) :
      (run lookups (after (run refills cache).cache)).changes = [] := by
    cases made
    decide +kernel
  have laws (moves : List Move) (before : Cache)
      (unchanged : (run moves (after before)).changes = []) :
      FencedTo fence {} before (after before) ∧
        Stocked (spared fence {} before) (run moves (after before)).cache := by
    obtain ⟨_, fenced, _, _, _, found⟩ := fence_laws .small {} fence before
    exact ⟨fenced, found moves (History.unrefilled_of_nil unchanged)⟩
  exact ⟨_, _, created, rfl, by decide +kernel, by decide +kernel, by decide +kernel,
    by decide +kernel, quiet _ created, laws lookups _ (quiet _ created)⟩

/-! ## One page of the host -/

/-- The fence for one virtual address of the host, in every address space. -/
def hostPageFence (address : Word) : Fence :=
  { everyAddress := false, address := address }

/-- Such a fence is for the lines of the host that cover the number of its page, with all
the bits of the address that are left. -/
theorem targets_hostPageFence
    {registers : Registers} (outside : registers.virtual = false) (address : Word)
    {tag : LineTag} (mode : tag.mode = .direct) (covered : Word → Prop) :
    (hostPageFence address).Targets registers tag covered ↔ covered (address >>> 12) := by
  constructor
  · intro targets
    rcases targets.address with every | covers
    · cases every
    · exact covers
  · exact fun covers => ⟨.host rfl rfl outside mode, .every rfl, .inr covers⟩

/-- A region of page numbers as lookups carry them holds the page number of a whole address
only in the lower half. -/
theorem covers_pageNumber_iff
    {address vpn region : Word} {bits : Nat} (canonical : IsCanonical address)
    (narrow : vpn.toNat < 2 ^ 27) (small : bits ≤ 27) (refilled : InRegion vpn region bits)
    (covered : InRegion (virtualPage address) region bits) :
    InRegion (address >>> 12) region bits ↔ ¬ IsUpperHalf address := by
  constructor
  · intro inside upper
    have bound : (address >>> 12).toNat < 2 ^ 27 := inside.lt small refilled narrow
    exact absurd bound (Nat.not_lt.2 (le_pageNumber canonical upper))
  · intro lower
    rwa [pageNumber_eq_virtualPage canonical lower]

/-- A fence for one page of the host invalidates the sectors and superpages that cover the
page if its address lies in the lower half of the address space, and leaves them valid if
it lies in the upper half. -/
theorem fence_hostPage
    {registers : Registers} (outside : registers.virtual = false) {address : Word}
    (canonical : IsCanonical address) (params : Params) (cache : Cache) :
    let after := (Cache.fence params registers (hostPageFence address) cache).state
    (∀ (index : Nat) (line : SectorLine) (vpn : Word), cache.sectors[index]? = some line →
        line.tag.mode = .direct → vpn.toNat < 2 ^ 27 → line.tag.region = sectorTag vpn →
        line.Covers (virtualPage address) →
        after.sectors[index]? =
          some (if IsUpperHalf address then line else line.invalidate)) ∧
      ∀ (index : Nat) (line : SuperpageLine) (vpn : Word),
        cache.superpages[index]? = some line → line.tag.mode = .direct → vpn.toNat < 2 ^ 27 →
        line.level < leafLevel → line.tag.region = regionTag vpn line.level →
        line.Covers (virtualPage address) →
        after.superpages[index]? =
          some (if IsUpperHalf address then line else line.invalidate) := by
  intro after
  have fenced := fencedTo_fence params registers (hostPageFence address) cache
  constructor
  · intro index line vpn found mode narrow region covers
    have target : (hostPageFence address).TargetsSector registers line ↔
        ¬ IsUpperHalf address :=
      (targets_hostPageFence outside address mode line.Covers).trans
        (covers_pageNumber_iff canonical narrow (by decide)
          ((sectorTag_eq_iff vpn _).1 region.symm) covers)
    by_cases upper : IsUpperHalf address
    · rw [if_pos upper]
      exact fenced.sectors.kept index line found fun targeted => target.1 targeted upper
    · rw [if_neg upper]
      exact fenced.sectors.cleared index line found (target.2 upper)
  · intro index line vpn found mode narrow level region covers
    have bits : openBits line.level ≤ 27 := by
      have width : indexBits.toNat = 9 := rfl
      rw [openBits_of_le (Nat.le_of_lt level), width]
      unfold leafLevel
      omega
    have target : (hostPageFence address).TargetsSuperpage registers line ↔
        ¬ IsUpperHalf address :=
      (targets_hostPageFence outside address mode line.Covers).trans
        (covers_pageNumber_iff canonical narrow bits
          ((regionTag_eq_iff vpn _ _).1 region.symm) covers)
    by_cases upper : IsUpperHalf address
    · rw [if_pos upper]
      exact fenced.superpages.kept index line found fun targeted => target.1 targeted upper
    · rw [if_neg upper]
      exact fenced.superpages.cleared index line found (target.2 upper)

/-- The last page of the lower half: a sector and a superpage that cover it go. -/
theorem fence_hostPage_of_last_lower_page :
    let address : Word := 0x3ffffff000
    let moves : List Move :=
      [.refill { level := leafLevel, request := { vpn := 0x3ffffff }, selected := ⟨0x1dccf⟩ },
        .refill { level := 1, request := { vpn := 0x3ffffff }, selected := ⟨0x800cf⟩ }]
    IsCanonical address ∧ ¬ IsUpperHalf address ∧ ∃ cache before,
      Cache.create .small = .ok cache ∧
      before = (History.run .small moves ⟨cache, {}, [], []⟩).state.cache ∧
      before.sectors[6]?.map (·.tag) =
        some { valid := true, region := sectorTag 0x3ffffff } ∧
      before.superpages[0]?.map (fun line => (line.tag, line.level)) =
        some ({ valid := true, region := regionTag 0x3ffffff 1 }, 1) ∧
      let after := (Cache.fence .small {} (hostPageFence address) before).state
      after.sectors[6]?.map (·.tag.valid) = some false ∧
        after.superpages[0]?.map (·.tag.valid) = some false := by
  intro address moves
  have canonical : IsCanonical address := by decide +kernel
  have lower : ¬ IsUpperHalf address := by decide +kernel
  have cleared (before : Cache)
      (sector : before.sectors[6]?.map (·.tag) =
        some { valid := true, region := sectorTag 0x3ffffff })
      (superpage : before.superpages[0]?.map (fun line => (line.tag, line.level)) =
        some ({ valid := true, region := regionTag 0x3ffffff 1 }, 1)) :
      let after := (Cache.fence .small {} (hostPageFence address) before).state
      after.sectors[6]?.map (·.tag.valid) = some false ∧
        after.superpages[0]?.map (·.tag.valid) = some false := by
    obtain ⟨sectors, superpages⟩ := @fence_hostPage {} rfl address canonical .small before
    obtain ⟨line, found, tag⟩ := Option.map_eq_some_iff.1 sector
    obtain ⟨large, largeFound, same⟩ := Option.map_eq_some_iff.1 superpage
    obtain ⟨largeTag, level⟩ := Prod.mk.inj same
    have sectorLeft := sectors 6 line 0x3ffffff found (by rw [tag]) (by decide)
      (by rw [tag]) (by unfold SectorLine.Covers; rw [tag]; decide +kernel)
    have superpageLeft := superpages 0 large 0x3ffffff largeFound (by rw [largeTag])
      (by decide) (by rw [level]; decide) (by rw [largeTag, level])
      (by unfold SuperpageLine.Covers; rw [largeTag, level]; decide +kernel)
    rw [if_neg lower] at sectorLeft superpageLeft
    intro after
    rw [sectorLeft, superpageLeft]
    exact ⟨rfl, rfl⟩
  have created : Cache.create .small = .ok _ := rfl
  exact ⟨canonical, lower, _, _, created, rfl, by decide +kernel, by decide +kernel,
    cleared _ (by decide +kernel) (by decide +kernel)⟩

/-- The last page of the upper half: the sector that covers it survives, and the next
lookup of the page hits it. -/
theorem upper_half_sector_survives_fence :
    let moves : List Move :=
      [.refill { level := leafLevel, request := { vpn := 0x7ffffff }, selected := ⟨0x1dccf⟩
                 block := Vector.replicate 8 0x1dccf },
        .tick, .fence (hostPageFence 0xfffffffffffff000), .tick,
        .send { request := { vpn := 0x7ffffff } }, .tick, .tick, .tick]
    IsCanonical 0xfffffffffffff000 ∧ virtualPage 0xfffffffffffff000 = 0x7ffffff ∧
      ∃ cache, Cache.create .small = .ok cache ∧
        let history := (History.run .small moves ⟨cache, {}, [], []⟩).state
        history.cache.validSectors = 1 ∧
          history.cache.answer.map (fun answer => (answer.hit, answer.stageOne.selected.ppn)) =
            some (true, 0x77) := by
  intro moves
  have created : Cache.create .small = .ok _ := rfl
  exact ⟨by decide +kernel, by decide +kernel, _, created, by decide +kernel,
    by decide +kernel⟩

end Cache

end PageWalk
