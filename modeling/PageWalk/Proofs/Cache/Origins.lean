import PageWalk.Proofs.Cache.Facts
import PageWalk.Proofs.Cache.History

/-!
# Where cached translations come from

As long as no line is corrupted, everything that an answer of the cache reports was read
by a walker: a refill of the same mode and of the region of the lookup has brought it,
under the identifiers that the storages were read with, and no fence has matched it since.
-/

namespace PageWalk

/-! ## Refills and what they write -/

inductive Storage
  | root
  | middle
  | sector
  | superpage
deriving DecidableEq, Repr

namespace Refill

/-- The storage that a refill is written to. A page fault of an upper level is kept with
the superpages. -/
def storage? (refill : Refill) : Option Storage :=
  let ends := refill.selected.isLeaf || refill.selected.pageFaultAt refill.level
  match refill.level with
  | 0 => some (if ends then .superpage else .root)
  | 1 => some (if ends then .superpage else .middle)
  | 2 => some .sector
  | _ => none

/-- Every entry that a refill writes serves every address space. -/
def global (refill : Refill) : Bool :=
  if refill.level = leafLevel then refill.block.all fun word => (⟨word⟩ : Pte).global
  else refill.selected.global

/-- The tag of the line that a refill writes. -/
def tag (registers : Registers) (refill : Refill) : LineTag :=
  .ofRefill registers refill.request (Cache.refillRegion refill.request.vpn refill.level)
    refill.global

section Storages

variable {refill : Refill}

theorem storage_of_leaf (leaf : refill.level = leafLevel) :
    refill.storage? = some .sector := by
  unfold storage?
  rw [leaf]
  rfl

theorem storage_of_ends
    (above : refill.level < leafLevel)
    (ends : refill.selected.isLeaf = true ∨ refill.selected.pageFaultAt refill.level = true) :
    refill.storage? = some .superpage := by
  have levels : refill.level = 0 ∨ refill.level = 1 := by
    unfold leafLevel at above
    omega
  have stops : (refill.selected.isLeaf || refill.selected.pageFaultAt refill.level) = true :=
    Bool.or_eq_true_iff.2 ends
  unfold storage?
  rw [stops]
  rcases levels with here | here <;> rw [here] <;> rfl

theorem storage_of_pointer
    (above : refill.level < leafLevel) (pointer : refill.selected.isLeaf = false)
    (sound : refill.selected.pageFaultAt refill.level = false) :
    refill.storage? = some (if refill.level = 0 then .root else .middle) := by
  have levels : refill.level = 0 ∨ refill.level = 1 := by
    unfold leafLevel at above
    omega
  unfold storage?
  rw [pointer, sound]
  rcases levels with here | here <;> rw [here] <;> rfl

/-- The levels that are kept in a storage. -/
theorem level_of_storage {storage : Storage} (written : refill.storage? = some storage) :
    (storage = .root → refill.level = 0) ∧ (storage = .middle → refill.level = 1) ∧
      (storage = .sector → refill.level = leafLevel) ∧
      (storage = .superpage → refill.level < leafLevel) := by
  unfold storage? at written
  generalize (refill.selected.isLeaf || refill.selected.pageFaultAt refill.level) = ends
    at written
  generalize refill.level = level at written ⊢
  dsimp only at written
  split at written
  · cases ends <;> cases written <;> decide
  · cases ends <;> cases written <;> decide
  · cases written
    decide
  · cases written

end Storages

end Refill

/-- A fence matches what a refill wrote under the registers `written`. -/
structure Fence.Matches (fence : Fence) (registers : Registers) (refill : Refill)
    (written : Registers) : Prop where
  mode :
    if fence.guestPhysical then
      refill.request.mode = .stageTwo
    else if fence.guestVirtual || registers.virtual then
      (refill.request.mode = .stageOne ∨ refill.request.mode = .nested) ∧
        written.vmid = registers.vmid
    else
      refill.request.mode = .direct
  identifier : fence.everyIdentifier = true ∨
    if fence.guestPhysical then
      written.vmid = fence.identifier
    else
      written.asid refill.request.mode = fence.identifier ∧ refill.global = false
  address : fence.everyAddress = true ∨
    refill.storage? = some .sector ∧ sectorTag refill.request.vpn = sectorTag fence.vpn ∨
    refill.storage? = some .superpage ∧
      regionTag refill.request.vpn refill.level = regionTag fence.vpn refill.level

/-- Among the first `before` changes a refill was written, and no fence has matched it
since. -/
def Refill.Stands (changes : List Cache.Change) (before : Nat) (registers : Registers)
    (refill : Refill) : Prop :=
  ∃ earlier later, changes = earlier ++ .refilled registers refill :: later ∧
    earlier.length < before ∧
    ∀ fenceRegisters fence, .fenced fenceRegisters fence ∈ later →
      ¬ fence.Matches fenceRegisters refill registers

/-- A refill that stands may serve a lookup whose storages were read under the given
registers. -/
structure Refill.Serves (refill : Refill) (registers : Registers)
    (changes : List Cache.Change) (reading : Cache.Reading) (request : Request) : Prop where
  stands : refill.Stands changes reading.changes registers
  concerns : refill.Concerns request
  vmid : request.mode ≠ .direct → registers.vmid = reading.registers.vmid
  asid : request.mode ≠ .stageTwo → refill.global = false →
    registers.asid request.mode = reading.registers.asid request.mode

/-- A refill that may serve a lookup has brought it something from a storage. -/
def Cache.Sourced (changes : List Cache.Change) (reading : Cache.Reading) (request : Request)
    (storage : Storage) (content : Refill → Prop) : Prop :=
  ∃ registers refill, Refill.Serves refill registers changes reading request ∧
    refill.storage? = some storage ∧ content refill

/-- What an answer reports is what refills have brought. A hit reports its sector or its
superpage, also as a second-stage result; a hint reports the pointer of the lower level. -/
structure CacheAnswer.Originates (params : Params) (changes : List Cache.Change)
    (reading : Cache.Reading) (answer : CacheAnswer) : Prop where
  sector : answer.sectorHit = true →
    Cache.Sourced changes reading answer.lookup.request .sector fun refill =>
      answer.stageOne.level = leafLevel ∧
        answer.stageOne.slots = refill.block.map fun word =>
          (⟨word⟩ : Pte).decoded refill.request.mode params.addressBits leafLevel
  superpage : answer.superpageHit = true →
    Cache.Sourced changes reading answer.lookup.request .superpage fun refill =>
      answer.stageOne.level = refill.level ∧
        answer.stageOne.slots = Vector.replicate 8
          (refill.selected.decoded refill.request.mode params.addressBits refill.level)
  guestPage : answer.hit = true →
    answer.stageTwo.level = answer.stageOne.level ∧
      (⟨answer.stageTwo.ppn, answer.stageTwo.permissions, answer.stageTwo.valid,
        answer.stageTwo.pageFault, answer.stageTwo.accessFault⟩ : Slot) =
        answer.stageOne.selected
  middle : answer.hint.middle = true →
    Cache.Sourced changes reading answer.lookup.request .middle fun refill =>
      answer.hint.ppn = refill.selected.ppn
  root : answer.hint.root = true →
    Cache.Sourced changes reading answer.lookup.request .root fun refill =>
      answer.hint.middle = false → answer.hint.ppn = refill.selected.ppn

/-! ## Refills that stand -/

namespace Refill.Stands

variable {changes : List Cache.Change} {before after : Nat} {registers : Registers}
  {refill : Refill}

theorem of_new (changes : List Cache.Change) (registers : Registers) (refill : Refill) :
    refill.Stands (changes ++ [.refilled registers refill]) (changes.length + 1) registers :=
  ⟨changes, [], rfl, Nat.lt_succ_self _, fun _ _ member => by cases member⟩

theorem mono (stands : refill.Stands changes before registers) (later : before ≤ after) :
    refill.Stands changes after registers := by
  obtain ⟨earlier, rest, same, here, spared⟩ := stands
  exact ⟨earlier, rest, same, Nat.lt_of_lt_of_le here later, spared⟩

/-- A refill stands until a fence matches it. -/
theorem append
    (stands : refill.Stands changes before registers) {change : Cache.Change}
    (spares : ∀ fenceRegisters fence, change = .fenced fenceRegisters fence →
      ¬ fence.Matches fenceRegisters refill registers) :
    refill.Stands (changes ++ [change]) before registers := by
  obtain ⟨earlier, later, same, here, spared⟩ := stands
  refine ⟨earlier, later ++ [change], by rw [same]; simp, here, ?_⟩
  intro fenceRegisters fence member
  rcases List.mem_append.1 member with old | new
  · exact spared fenceRegisters fence old
  · exact spares fenceRegisters fence (List.mem_singleton.1 new).symm

theorem append_refilled
    (stands : refill.Stands changes before registers) (others : Registers) (other : Refill) :
    refill.Stands (changes ++ [.refilled others other]) before registers :=
  stands.append fun _ _ same => by cases same

end Refill.Stands

namespace Cache

/-- A line of a storage was written by a refill that stands. -/
def Written (changes : List Change) (before : Nat) (storage : Storage) (tag : LineTag)
    (content : Refill → Prop) : Prop :=
  ∃ registers refill, refill.Stands changes before registers ∧
    refill.storage? = some storage ∧ tag = refill.tag registers ∧ content refill

/-- Every line was written by a refill that stands. -/
def origins (params : Params) (changes : List Change) (before : Nat) : LineFacts where
  root := fun line => Written changes before .root line.tag fun refill =>
    line.ppn = refill.selected.ppn
  middle := fun line => Written changes before .middle line.tag fun refill =>
    line.ppn = refill.selected.ppn
  sector := fun line => Written changes before .sector line.tag fun refill =>
    line.slots.map LeafSlot.toSlot = refill.block.map fun word =>
      (⟨word⟩ : Pte).decoded refill.request.mode params.addressBits leafLevel
  superpage := fun line => Written changes before .superpage line.tag fun refill =>
    line.level = refill.level ∧
      line.toSlot = refill.selected.decoded refill.request.mode params.addressBits refill.level

section Lines

variable {changes : List Change} {before : Nat} {storage : Storage} {tag : LineTag}
  {content : Refill → Prop}

theorem Written.append_refilled
    (written : Written changes before storage tag content) (registers : Registers)
    (refill : Refill) {after : Nat} (later : before ≤ after) :
    Written (changes ++ [.refilled registers refill]) after storage tag content := by
  obtain ⟨under, origin, stands, rest⟩ := written
  exact ⟨under, origin, (stands.append_refilled registers refill).mono later, rest⟩

theorem origins_append_refilled
    (params : Params) (registers : Registers) (refill : Refill) {after : Nat}
    (later : before ≤ after) :
    (origins params changes before).Implies
      (origins params (changes ++ [.refilled registers refill]) after) where
  root := fun _ written => written.append_refilled registers refill later
  middle := fun _ written => written.append_refilled registers refill later
  sector := fun _ written => written.append_refilled registers refill later
  superpage := fun _ written => written.append_refilled registers refill later

/-- What a refill that is written brings was written by it. -/
theorem refill_brings
    (params : Params) (changes : List Change) (registers : Registers) (refill : Refill) :
    refill.Brings
      (origins params (changes ++ [.refilled registers refill]) (changes.length + 1)) params
      registers := by
  have stands := Refill.Stands.of_new changes registers refill
  have upper (above : refill.level < leafLevel) :
      refill.tag registers = .ofRefill registers refill.request
        (regionTag refill.request.vpn refill.level) refill.selected.global := by
    unfold Refill.tag Refill.global refillRegion
    rw [if_neg (Nat.ne_of_lt above), if_neg (Nat.ne_of_lt above)]
  refine ⟨?_, ?_, ?_, ?_⟩
  · intro _ root pointer sound
    refine ⟨registers, refill, stands, ?_, ?_, rfl⟩
    · rw [Refill.storage_of_pointer (by rw [root]; decide) pointer sound, if_pos root]
    · rw [upper (by rw [root]; decide), root]
  · intro _ middle pointer sound code
    refine ⟨registers, refill, stands, ?_, ?_, rfl⟩
    · rw [Refill.storage_of_pointer (by rw [middle]; decide) pointer sound, middle]
      rfl
    · rw [upper (by rw [middle]; decide), middle]
  · intro _ leaf code
    refine ⟨registers, refill, stands, Refill.storage_of_leaf leaf, ?_, ?_⟩
    · unfold Refill.tag Refill.global refillRegion
      rw [if_pos leaf, if_pos leaf]
      rfl
    · rw [Vector.map_map]
      refine congrArg (refill.block.map ·) (funext fun word => ?_)
      exact toSlot_ofPte_decoded refill.request.mode params.addressBits ⟨word⟩
  · intro inside above ends
    refine ⟨registers, refill, stands, Refill.storage_of_ends above ends, (upper above).symm,
      rfl, ?_⟩
    simp [SuperpageLine.toSlot, Pte.decoded, inside]

/-! ## Fences -/

/-- A fence that matches what a refill wrote selects the line. -/
theorem selects_of_matches
    {fence : Fence} {registers written : Registers} {refill : Refill}
    (matching : fence.Matches registers refill written) {coversAddress : Bool}
    (address : fence.everyAddress = true ∨ coversAddress = true) :
    fence.selects registers (refill.tag written) coversAddress = true := by
  have mode : fence.selectsMode registers (refill.tag written) = true := by
    have holds := matching.mode
    unfold Fence.selectsMode
    split at holds
    · rename_i physical
      rw [if_pos physical]
      exact beq_iff_eq.2 holds
    · rename_i virtual
      rw [if_neg virtual]
      split at holds
      · rename_i guest
        rw [if_pos guest]
        simpa [Refill.tag, LineTag.ofRefill] using holds
      · rename_i host
        rw [if_neg host]
        exact beq_iff_eq.2 holds
  have space : fence.selectsSpace (refill.tag written) = true := by
    have holds := matching.identifier
    unfold Fence.selectsSpace
    split at holds
    · rename_i physical
      rw [if_pos physical]
      simpa [Refill.tag, LineTag.ofRefill] using holds
    · rename_i virtual
      rw [if_neg virtual]
      simpa [Refill.tag, LineTag.ofRefill] using holds
  unfold Fence.selects
  rw [mode, space]
  simpa [Refill.tag, LineTag.ofRefill] using address

/-- A line that a fence leaves was written by a refill that the fence does not match. -/
private theorem Written.append_fenced
    (written : Written changes before storage tag content) {registers : Registers}
    {fence : Fence} {coversAddress : Bool}
    (spared : fence.selects registers tag coversAddress = false)
    (covers : ∀ refill under, content refill → refill.storage? = some storage →
      tag = refill.tag under → fence.Matches registers refill under →
      fence.everyAddress = true ∨ coversAddress = true)
    {after : Nat} (later : before ≤ after) :
    Written (changes ++ [.fenced registers fence]) after storage tag content := by
  obtain ⟨under, refill, stands, stored, same, holds⟩ := written
  refine ⟨under, refill, (stands.append ?_).mono later, stored, same, holds⟩
  intro _ _ here matching
  cases here
  have selected := selects_of_matches matching (covers refill under holds stored same matching)
  rw [← same, spared] at selected
  cases selected

theorem origins_append_fenced
    (params : Params) (registers : Registers) (fence : Fence) {after : Nat}
    (later : before ≤ after) :
    FenceSpares fence registers (origins params changes before)
      (origins params (changes ++ [.fenced registers fence]) after) where
  root := fun line spared written =>
    written.append_fenced spared (fun refill _ _ stored _ matching => by
      simpa [stored] using matching.address) later
  middle := fun line spared written =>
    written.append_fenced spared (fun refill _ _ stored _ matching => by
      simpa [stored] using matching.address) later
  sector := fun line spared written =>
    written.append_fenced spared (fun refill _ _ stored same matching => by
      have leaf := (Refill.level_of_storage stored).2.2.1 rfl
      simpa [stored, same, Refill.tag, LineTag.ofRefill, refillRegion, leaf]
        using matching.address) later
  superpage := fun line spared written =>
    written.append_fenced spared (fun refill _ holds stored same matching => by
      have above := (Refill.level_of_storage stored).2.2.2 rfl
      simpa [stored, same, Refill.tag, LineTag.ofRefill, refillRegion, Nat.ne_of_lt above,
        holds.1] using matching.address) later

/-! ## What serves a lookup -/

/-- The refill of a line that is found for a request concerns it. -/
theorem concerns_of_matches
    {refill : Refill} {registers : Registers} {request : Request} {region : Word}
    (stored : refill.storage? = some storage)
    (same : (refill.tag registers).Matches request region)
    (covers : region = refillRegion request.vpn refill.level) : refill.Concerns request := by
  have level : refill.level ≤ leafLevel := by
    have levels := Refill.level_of_storage stored
    unfold leafLevel at levels ⊢
    cases storage <;> simp at levels <;> omega
  exact (Refill.concerns_iff level request).2 ⟨same.1, same.2.trans covers⟩

/-- A line that serves a lookup was written by a refill that serves it. -/
private theorem Written.sourced
    {reading : Reading} {request : Request} {region : Word}
    (written : Written changes reading.changes storage tag content)
    (serves : tag.serves reading.registers request.mode = true)
    (same : tag.Matches request region)
    (covers : ∀ refill, content refill → refill.storage? = some storage →
      region = refillRegion request.vpn refill.level) :
    Sourced changes reading request storage content := by
  obtain ⟨registers, refill, stands, stored, made, holds⟩ := written
  rw [made] at same serves
  have concerns := concerns_of_matches stored same (covers refill holds stored)
  unfold LineTag.serves at serves
  simp only [Bool.and_eq_true, Bool.or_eq_true, beq_iff_eq, Bool.not_eq_true'] at serves
  refine ⟨registers, refill, ⟨stands, concerns, ?_, ?_⟩, stored, holds⟩
  · intro guest
    refine serves.2.resolve_left ?_
    simpa [Mode.isGuest] using guest
  · intro first ownSpace
    have mode : refill.request.mode = request.mode := concerns.mode
    rcases serves.1.2 with (second | global) | space
    · exact absurd second first
    · exact absurd global (Bool.eq_false_iff.1 ownSpace)
    · rw [← mode] at space ⊢
      exact space

end Lines

/-! ## Answers -/

section Answers

variable {params : Params} {changes : List Change} {reading : Reading} {checked : CheckedLookup}

/-- An answer that is made of lines that serve its lookup reports what refills have
brought. -/
theorem originates_answerOf
    (backed : checked.Backed ((origins params changes reading.changes).serving
      reading.registers checked.lookup.request.mode))
    (once : checked.sector = none ∨ checked.superpage = none) (registers : Registers) :
    (answerOf registers checked).Originates params changes reading where
  sector := fun hit => by
    obtain ⟨line, found⟩ := Option.isSome_iff_exists.1 hit
    obtain ⟨⟨written, serves⟩, matching⟩ := backed.sector line found
    obtain ⟨under, refill, served, stored, slots⟩ :=
      written.sourced serves matching fun refill _ stored => by
        rw [refillRegion, if_pos ((Refill.level_of_storage stored).2.2.1 rfl)]
    refine ⟨under, refill, served, stored, ?_⟩
    unfold answerOf answerStageOne
    rw [found]
    exact ⟨rfl, slots⟩
  superpage := fun hit => by
    obtain ⟨line, found⟩ := Option.isSome_iff_exists.1 hit
    obtain ⟨⟨written, serves⟩, matching⟩ := backed.superpage line found
    obtain ⟨under, refill, served, stored, level, slot⟩ :=
      written.sourced serves matching fun refill holds stored => by
        rw [refillRegion, if_neg (Nat.ne_of_lt ((Refill.level_of_storage stored).2.2.2 rfl)),
          holds.1]
    have missed : checked.sector = none :=
      once.resolve_right (by rw [found]; exact Option.some_ne_none line)
    refine ⟨under, refill, served, stored, ?_⟩
    unfold answerOf answerStageOne
    rw [found, missed]
    exact ⟨level, congrArg (Vector.replicate 8) slot⟩
  guestPage := fun hit => by
    have found : checked.isHit = true := hit
    unfold answerOf
    dsimp only
    rw [if_pos found]
    exact ⟨rfl, rfl⟩
  middle := fun hit => by
    obtain ⟨line, found⟩ := Option.isSome_iff_exists.1 hit
    obtain ⟨⟨written, serves⟩, matching⟩ := backed.middle line found
    obtain ⟨under, refill, served, stored, pointer⟩ :=
      written.sourced serves matching fun refill _ stored => by
        rw [refillRegion, (Refill.level_of_storage stored).2.1 rfl]
        rfl
    refine ⟨under, refill, served, stored, ?_⟩
    unfold answerOf
    rw [found]
    exact pointer
  root := fun hit => by
    obtain ⟨line, found⟩ := Option.isSome_iff_exists.1 hit
    obtain ⟨⟨written, serves⟩, matching⟩ := backed.root line found
    obtain ⟨under, refill, served, stored, pointer⟩ :=
      written.sourced serves matching fun refill _ stored => by
        rw [refillRegion, (Refill.level_of_storage stored).1 rfl]
        rfl
    refine ⟨under, refill, served, stored, fun missed => ?_⟩
    have noMiddle : checked.middle = none := by
      simpa [answerOf] using missed
    unfold answerOf
    rw [found, noMiddle]
    exact pointer

end Answers

/-! ## Answers that stay -/

section Answers

variable {params : Params} {changes : List Change} {reading : Reading} {answer : CacheAnswer}

private theorem Sourced.append_refilled
    {request : Request} {storage : Storage} {content : Refill → Prop}
    (sourced : Sourced changes reading request storage content) (registers : Registers)
    (refill : Refill) :
    Sourced (changes ++ [.refilled registers refill]) reading request storage content := by
  obtain ⟨under, origin, serves, rest⟩ := sourced
  exact ⟨under, origin,
    { serves with stands := serves.stands.append_refilled registers refill }, rest⟩

/-- A refill that is written leaves what an answer reports as it is. -/
private theorem originates_markAnswer
    (originates : answer.Originates params changes reading) (registers : Registers)
    (refill : Refill) :
    (markAnswer refill answer).Originates params (changes ++ [.refilled registers refill])
      reading := by
  have stands : answer.Originates params (changes ++ [.refilled registers refill]) reading :=
    { sector := fun hit => (originates.sector hit).append_refilled registers refill
      superpage := fun hit => (originates.superpage hit).append_refilled registers refill
      guestPage := originates.guestPage
      middle := fun hit => (originates.middle hit).append_refilled registers refill
      root := fun hit => (originates.root hit).append_refilled registers refill }
  unfold markAnswer
  split
  · exact ⟨stands.sector, stands.superpage, stands.guestPage, stands.middle, stands.root⟩
  · exact stands

end Answers

/-! ## Histories -/

/-- Whether a move corrupts a line. -/
def Move.corrupts : Move → Bool
  | .corrupt _ _ _ => true
  | _ => false

/-- What the pipeline knows of the origin of the lines that were read for a lookup. -/
def Rooted (params : Params) (changes : List Change) : Stage → Passage → Prop
  | .waiting held, passage => passage.lookup = held.lookup ∧ passage.reading = none
  | .reading held, passage => passage.lookup = held.lookup ∧
      ∃ reading, passage.reading = some reading ∧
        Backed ((origins params changes reading.changes).serving reading.registers
            held.lookup.request.mode)
          held.lookup.request (held.root.map (·.line)) (held.middle.map (·.line))
          (held.sector.map (·.line)) (held.superpage.map (·.line))
  | .checked held, passage => passage.lookup = held.lookup ∧
      ∃ reading, passage.reading = some reading ∧
        held.Backed ((origins params changes reading.changes).serving reading.registers
          held.lookup.request.mode)
  | .answer held, passage => passage.lookup = held.lookup ∧
      ∃ reading, passage.reading = some reading ∧ held.Originates params changes reading

section Histories

variable {params : Params} {history : History}

private theorem carries_rooted
    (stocked : history.cache.Stocked
      (origins params history.changes history.changes.length)) :
    history.Carries params (Rooted params) where
  accept := fun lookup => ⟨rfl, rfl⟩
  read := fun held passage ⟨same, unread⟩ => by
    have storages := (stocked.respondStage params history.registers).checkStage params
    have backed := storages.shelved.read params history.registers held
    refine ⟨same, ⟨history.registers, history.changes.length⟩, ?_, backed⟩
    simp [Passage.read, unread]
  check := fun held passage cache ⟨same, reading, read, backed⟩ =>
    ⟨same, reading, read, backed_checkedOf params cache backed⟩
  respond := fun held passage once ⟨same, reading, read, backed⟩ =>
    ⟨same, reading, read, originates_answerOf backed once history.registers⟩
  stay := fun stage passage passed rooted => by
    cases stage with
    | waiting held => cases passed
    | reading held | checked held | answer held =>
        obtain ⟨same, reading, read, rest⟩ := rooted
        exact ⟨same, reading, by simp [Passage.read, read], rest⟩
  land := fun refill stage passage _ rooted => by
    cases stage with
    | waiting held => exact rooted
    | reading held | checked held =>
        obtain ⟨same, reading, read, backed⟩ := rooted
        exact ⟨same, reading, read, backed.imp ((origins_append_refilled params
          history.registers refill (Nat.le_refl _)).serving _ _)⟩
    | answer held =>
        obtain ⟨same, reading, read, originates⟩ := rooted
        refine ⟨?_, reading, read, originates_markAnswer originates history.registers refill⟩
        change passage.lookup = (markAnswer refill held).lookup
        rw [lookup_markAnswer]
        exact same

/-- A move that corrupts no line keeps the origin of all lines. -/
theorem stocked_perform
    (stocked : history.cache.Stocked (origins params history.changes history.changes.length))
    {move : Move} (intact : move.corrupts = false) :
    let after := (history.perform params move).state
    after.cache.Stocked (origins params after.changes after.changes.length) := by
  have shelved := stocked.shelved
  have piped := stocked.piped
  cases move with
  | send lookup => exact stocked.send params lookup
  | tick => exact stocked.tick params history.registers
  | pop => exact stocked.pop params
  | refill refill =>
      unfold History.perform
      rw [Outcome.map_state]
      rcases refill_cases params history.registers refill history.cache with
        ⟨taken, level, _⟩ | ⟨dropped, _, _, state⟩
      · have later : history.changes.length ≤ history.changes.length + 1 := Nat.le_succ _
        have next := stocked.imp
          (origins_append_refilled params history.registers refill later)
        have written :=
          next.refill (refill_brings params history.changes history.registers refill) level
        rw [if_pos taken]
        dsimp only
        rw [List.length_append]
        exact written
      · rw [dropped, if_neg Bool.noConfusion, state]
        exact ⟨{ shelved with }, { piped with }⟩
  | fence fence =>
      have later : history.changes.length ≤
          (history.changes ++ [Change.fenced history.registers fence]).length := by
        simp
      exact stocked.fence_spares params
        (origins_append_fenced params history.registers fence later)
  | flush => exact stocked.flush
  | install registers => exact stocked
  | corrupt level set way => cases intact

end Histories

/-- At every point of a history in which no line is corrupted, everything that an answer
reports was brought by refills that were written before the storages were read for its
lookup and that no fence has matched since. -/
theorem origins_of_run
    {params : Params} {cache : Cache} (created : Cache.create params = .ok cache)
    (registers : Registers) {moves : List Move}
    (intact : ∀ move ∈ moves, move.corrupts = false) :
    let history := (History.run params moves ⟨cache, registers, [], []⟩).state
    ∀ answer, history.cache.answer = some answer →
      ∃ passage reading, history.passages.head? = some passage ∧
        passage.lookup = answer.lookup ∧ passage.reading = some reading ∧
        answer.Originates params history.changes reading := by
  intro history answer found
  let Kept (history : History) : Prop :=
    history.cache.Stocked (origins params history.changes history.changes.length) ∧
      history.Tracks (Rooted params)
  have start : Kept ⟨cache, registers, [], []⟩ :=
    ⟨(stocked_of_create created).1, History.tracks_of_create created registers⟩
  have step (move : Move) (member : move ∈ moves) (current : History) (before : Kept current) :
      Kept (current.perform params move).state :=
    ⟨stocked_perform before.1 (intact move member),
      before.2.perform (carries_rooted before.1) move⟩
  have kept : Kept history := Outcome.forEach_state_induction step start
  obtain ⟨passage, oldest, same, reading, read, originates⟩ := kept.2.answer found
  exact ⟨passage, reading, oldest, same, read, originates⟩

/-- A sector and a pointer are read under the identifiers that they were refilled under,
and a fence for the address of another sector has passed in between. -/
theorem origins_of_small_run :
    let block : Block := Vector.replicate 8 0x1dccf
    let moves : List Move :=
      [.refill { level := leafLevel, request := { vpn := 5 }, selected := ⟨0x1dccf⟩, block },
        .refill { level := 0, request := { vpn := 5 }, selected := ⟨0x801⟩ },
        .fence { everyAddress := false, address := 0x8000 }, .tick,
        .send { request := { vpn := 6 } }, .tick, .tick, .tick]
    ∃ cache, Cache.create .small = .ok cache ∧ (∀ move ∈ moves, move.corrupts = false) ∧
      let history := (History.run .small moves ⟨cache, {}, [], []⟩).state
      history.cache.answer.map (fun answer =>
          (answer.sectorHit, answer.stageOne.selected.ppn, answer.hint.root,
            answer.hint.ppn)) =
          some (true, 0x77, true, 2) ∧
        ∀ answer, history.cache.answer = some answer →
          ∃ passage reading, history.passages.head? = some passage ∧
            passage.lookup = answer.lookup ∧ passage.reading = some reading ∧
            answer.Originates .small history.changes reading := by
  intro block moves
  have created : Cache.create .small = .ok _ := rfl
  have intact : ∀ move ∈ moves, move.corrupts = false := by
    simp [moves, Move.corrupts]
  exact ⟨_, created, intact, by decide +kernel, origins_of_run created {} intact⟩

end Cache

end PageWalk
