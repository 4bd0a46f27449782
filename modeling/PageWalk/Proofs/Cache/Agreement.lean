import PageWalk.Proofs.Cache.Origins
import PageWalk.Proofs.StageTwoWalker
import PageWalk.Proofs.UpperWalker

/-!
# Hits and walks

A hit shows what a walker shows that reads the same entry itself. The cache decodes entries
when they are written and the walkers when they end a walk, and the faults of an entry are
worked out in four places. They all come to the same slot.
-/

namespace PageWalk

/-- The entry that a refill has for a page number: its leaf in the sector, or the one entry
of an upper level. -/
def Refill.entryOf (refill : Refill) (vpn : Word) : Pte :=
  if refill.level = leafLevel then ⟨leafAt refill.block vpn⟩ else refill.selected

/-- A slot as the second-stage result of a guest page. -/
def Slot.ofGuestPage (slot : Slot) (gvpn : Word) (level : Nat) (vmid : UInt16) :
    StageTwoResult where
  tag := gvpn
  vmid := vmid
  level := level
  ppn := slot.ppn
  permissions := slot.permissions
  valid := slot.valid
  pageFault := slot.pageFault
  accessFault := slot.accessFault

/-! ## Decoded entries -/

/-- An entry of a level ends every walk that reads it. -/
def Pte.Ends (pte : Pte) (mode : Mode) (addressBits : UInt32) (level : Nat) : Prop :=
  mode.accessFault pte addressBits = true ∨ pte.pageFaultAt level = true ∨ pte.isLeaf = true

section Entries

variable {mode : Mode} {addressBits : UInt32} {level : Nat} {pte : Pte}

theorem Pte.ends_leafLevel (pte : Pte) (mode : Mode) (addressBits : UInt32) :
    pte.Ends mode addressBits leafLevel := by
  by_cases leaf : pte.isLeaf = true
  · exact .inr (.inr leaf)
  · refine .inr (.inl ?_)
    simp [Pte.pageFaultAt, leaf]

theorem Refill.ends_of_superpage
    {refill : Refill} (written : refill.storage? = some .superpage) :
    refill.selected.Ends mode addressBits refill.level := by
  have above := (Refill.level_of_storage written).2.2.2 rfl
  by_cases leaf : refill.selected.isLeaf = true
  · exact .inr (.inr leaf)
  · by_cases fault : refill.selected.pageFaultAt refill.level = true
    · exact .inr (.inl fault)
    · have pointer := Refill.storage_of_pointer above (Bool.eq_false_iff.2 leaf)
        (Bool.eq_false_iff.2 fault)
      rw [written] at pointer
      split at pointer <;> cases pointer

theorem decoded_of_outside
    (outside : mode.accessFault pte addressBits = true) :
    pte.decoded mode addressBits level = StageOneResult.slotOfPte pte false true := by
  simp [Pte.decoded, StageOneResult.slotOfPte, outside]

theorem decoded_of_pageFault
    (inside : mode.accessFault pte addressBits = false)
    (fault : pte.pageFaultAt level = true) :
    pte.decoded mode addressBits level = StageOneResult.slotOfPte pte true false := by
  simp [Pte.decoded, StageOneResult.slotOfPte, inside, fault]

theorem decoded_of_leaf
    (inside : mode.accessFault pte addressBits = false)
    (sound : pte.pageFaultAt level = false) (leaf : pte.isLeaf = true) :
    pte.decoded mode addressBits level = StageOneResult.slotOfPte pte false false := by
  simp [Pte.decoded, StageOneResult.slotOfPte, inside, sound, Pte.valid_of_isLeaf leaf]

end Entries

/-! ## The walkers -/

/-- The upper walker responds with a first-stage result, at once or after the last
translation, whatever this is. -/
def UpperWalker.RespondsWith (params : Params) (registers : Registers) (walker : UpperWalker)
    (stageOne : StageOneResult) : Prop :=
  (∃ response, walker.response? = some response ∧ response.stageOne = stageOne) ∨
    ((walker.stageTwoRequest? params).isSome = true ∧
      ∀ result, ∃ response,
        (((walker.fireStageTwo params).state).takeStageTwo params registers result).state.response?
            = some response ∧
          response.stageOne = stageOne ∧ response.stageTwo = some result)

theorem UpperWalker.response_of_lastRequest
    (params : Params) (registers : Registers) {walker : UpperWalker} {walk : UpperWalk}
    (state : walker.state = .lastRequest walk) (result : StageTwoResult) :
    (((walker.fireStageTwo params).state).takeStageTwo params registers result).state.response? =
      some (walk.response registers false false (some result)) := by
  simp [fireStageTwo, state, takeStageTwo, finish, response?]

/-- An upper walk that reads an entry which ends it, and is not out of range, shows the
entry in every slot. -/
theorem UpperWalker.respondsWith_decoded
    (params : Params) (registers : Registers) {walker : UpperWalker} {walk : UpperWalk}
    {address : Word} (waits : walker.state = .memoryWait walk address) {block : Block}
    {pte : Pte} (read : entryAt block address = pte.raw)
    (inside : walk.request.mode.accessFault pte params.addressBits = false)
    (ends : pte.Ends walk.request.mode params.addressBits walk.level) :
    (takeBlock params registers block walker).state.RespondsWith params registers
      { tag := sectorTag walk.request.vpn
        asid := registers.asid walk.request.mode
        vmid := registers.vmid
        level := walk.level
        index := sectorIndex walk.request.vpn
        slots := Vector.replicate 8
          (pte.decoded walk.request.mode params.addressBits walk.level) } := by
  obtain ⟨followed, _⟩ := takeBlock_cases params registers block waits
  rw [read] at followed
  generalize reached : (takeBlock params registers block walker).state = after at followed ⊢
  generalize next : after.state = following at followed
  cases followed with
  | accessFault outside => exact absurd (inside.symm.trans outside) Bool.false_ne_true
  | pageFault _ fault =>
      refine .inl ⟨_, by rw [UpperWalker.response?, next], ?_⟩
      rw [decoded_of_pageFault inside fault]
      rfl
  | superpage _ sound leaf =>
      refine .inr ⟨by simp [stageTwoRequest?, next], fun result => ?_⟩
      refine ⟨_, response_of_lastRequest params registers next result, ?_, rfl⟩
      rw [decoded_of_leaf inside sound leaf]
      rfl
  | leaf _ sound leaf =>
      refine .inl ⟨_, by rw [UpperWalker.response?, next], ?_⟩
      rw [decoded_of_leaf inside sound leaf]
      rfl
  | dispatch _ sound pointer | descend _ sound pointer =>
      rcases ends with outside | fault | leaf
      · exact absurd (inside.symm.trans outside) Bool.false_ne_true
      · exact absurd (Eq.trans (Eq.symm sound) fault) Bool.false_ne_true
      · exact absurd (Eq.trans (Eq.symm pointer) leaf) Bool.false_ne_true

/-- A second-stage walk that reads an entry which ends it shows the entry. -/
theorem StageTwoWalker.reply_decoded
    (params : Params) (registers : Registers) {walker : StageTwoWalker} {walk : GuestWalk}
    {address : Word} (waits : walker.state = .memoryWait walk address) {block : Block}
    {pte : Pte} (read : entryAt block address = pte.raw)
    (ends : pte.Ends .stageTwo params.addressBits walk.level) :
    (takeBlock params registers block walker).state.reply? =
      some ⟨walk.request.id,
        (pte.decoded .stageTwo params.addressBits walk.level).ofGuestPage walk.request.gvpn
          walk.level registers.vmid⟩ := by
  obtain ⟨followed, _⟩ := takeBlock_cases params registers block waits
  rw [read] at followed
  generalize reached : (takeBlock params registers block walker).state = after at followed ⊢
  generalize next : after.state = following at followed
  cases followed with
  | accessFault outside =>
      have decoded : pte.decoded .stageTwo params.addressBits walk.level = _ :=
        decoded_of_outside outside
      rw [decoded, reply?, next]
      rfl
  | pageFault inside fault =>
      have decoded : pte.decoded .stageTwo params.addressBits walk.level = _ :=
        decoded_of_pageFault inside fault
      rw [decoded, reply?, next]
      rfl
  | leaf inside sound leaf =>
      have decoded : pte.decoded .stageTwo params.addressBits walk.level = _ :=
        decoded_of_leaf inside sound leaf
      rw [decoded, reply?, next]
      rfl
  | descend inside sound pointer =>
      rcases ends with outside | fault | leaf
      · exact absurd (Eq.trans (Eq.symm inside) outside) Bool.false_ne_true
      · exact absurd (sound.symm.trans fault) Bool.false_ne_true
      · exact absurd (pointer.symm.trans leaf) Bool.false_ne_true

/-! ## Hits -/

/-- A hit agrees with the walkers under the registers that it was made under: it shows what
the entry of a refill, or its whole block, makes a walker show. Only the prefetch flags are
left out. -/
structure CacheAnswer.Agrees (params : Params) (registers : Registers) (refill : Refill)
    (answer : CacheAnswer) : Prop where
  concerns : refill.Concerns answer.lookup.request
  sector : answer.sectorHit = true →
    let request := answer.lookup.request
    refill.level = leafLevel ∧
      { answer.stageOne with prefetch := false } =
        StageOneResult.ofBlock request.vpn refill.block false request.mode params.addressBits
          (registers.asid request.mode) registers.vmid
  superpage : answer.superpageHit = true →
    let request := answer.lookup.request
    refill.level < leafLevel ∧
      ∀ walker : UpperWalker, ∀ walk address block,
        walker.state = .memoryWait walk address → walk.level = refill.level →
        walk.request.vpn = request.vpn → walk.request.mode = request.mode →
        entryAt block address = (refill.entryOf request.vpn).raw →
        (walker.takeBlock params registers block).state.RespondsWith params registers
          { answer.stageOne with prefetch := false }
  guestPage : answer.lookup.request.mode = .stageTwo →
    let request := answer.lookup.request
    ∀ walker : StageTwoWalker, ∀ walk address block,
      walker.state = .memoryWait walk address → walk.level = refill.level →
      walk.request.gvpn = request.vpn →
      entryAt block address = (refill.entryOf request.vpn).raw →
      (walker.takeBlock params registers block).state.reply? =
        some ⟨walk.request.id, { answer.stageTwo with prefetch := false }⟩

namespace Cache

variable {params : Params} {registers : Registers} {changes : List Change} {before : Nat}
  {checked : CheckedLookup}

/-- An answer that comes in a step is that of the checked lookup. -/
theorem tick_answer
    {cache : Cache} (free : cache.answer = none) {answer : CacheAnswer}
    (found : (tick params registers cache).state.answer = some answer) :
    ∃ checked, cache.checked = some checked ∧
      (checked.sector = none ∨ checked.superpage = none) ∧
      answer = answerOf registers checked := by
  have kept (after : Cache) : (checkStage params after).state.answer = after.answer := by
    unfold checkStage
    split
    · rename_i read _ _
      rw [(check_spec params read { after with reading := none }).1]
      exact (afterCheck_stages params read { after with reading := none }).answer
    · rfl
  have came : (respondStage params registers cache).state.answer = some answer := by
    cases stopped : (respondStage params registers cache).fault with
    | some fault =>
        rw [tick, Outcome.andThen_of_stopped _ stopped] at found
        exact found
    | none =>
        have second := (checkStage_lookups params (respondStage params registers cache).state).2
        rw [tick, Outcome.andThen_state_of_running _ stopped,
          Outcome.andThen_state_of_running _ second.running] at found
        rw [← kept, ← found]
        simp only [endStep, readStage]
        split <;> rfl
  unfold respondStage at came
  split at came
  · rename_i checked _ present
    unfold respond at came
    split at came
    · rw [Outcome.stop, free] at came
      cases came
    · rename_i single
      cases came
      refine ⟨checked, present, ?_, rfl⟩
      cases sector : checked.sector with
      | none => exact .inl rfl
      | some line => exact .inr (by simpa [sector] using single)
  · rw [free] at came
    cases came

/-- The second-stage result of a hit is that of the second-stage walker for the same entry. -/
private theorem stageTwo_of_hit
    {level : Nat} {slot : Slot} (hit : checked.isHit = true)
    (shown : (answerStageOne registers checked).level = level)
    (selected : (answerStageOne registers checked).selected = slot) :
    { (answerOf registers checked).stageTwo with prefetch := false } =
      slot.ofGuestPage checked.lookup.request.vpn level registers.vmid := by
  have vmid : (answerStageOne registers checked).vmid = registers.vmid := by
    unfold answerStageOne
    split <;> rfl
  simp [answerOf, hit, stageTwoOf, Slot.ofGuestPage, shown, selected, vmid]

/-- The hit on a sector agrees with the walkers that read its block. -/
theorem agrees_of_sector
    (backed : checked.Backed (origins params changes before)) {line : SectorLine}
    (hit : checked.sector = some line) (once : checked.superpage = none) :
    ∃ written refill, refill.Stands changes before written ∧
      (answerOf registers checked).Agrees params registers refill := by
  obtain ⟨⟨written, refill, stands, stored, made, slots⟩, matching⟩ := backed.sector line hit
  have leaf := (Refill.level_of_storage stored).2.2.1 rfl
  rw [made] at matching
  have concerns := concerns_of_matches stored matching (by rw [refillRegion, if_pos leaf])
  rw [concerns.mode] at slots
  have shown : answerStageOne registers checked =
      { tag := sectorTag checked.lookup.request.vpn
        asid := registers.asid checked.lookup.request.mode
        vmid := registers.vmid
        prefetch := checked.lookup.request.isPrefetch
        index := sectorIndex checked.lookup.request.vpn
        level := leafLevel
        sectored := true
        slots := refill.block.map fun word =>
          (⟨word⟩ : Pte).decoded checked.lookup.request.mode params.addressBits leafLevel } := by
    rw [← slots, answerStageOne, hit]
  refine ⟨written, refill, stands, concerns, fun _ => ⟨leaf, ?_⟩, ?_, ?_⟩
  · have stageOne : (answerOf registers checked).stageOne = _ := shown
    rw [stageOne]
    simp only [StageOneResult.ofBlock, slotOfLeaf_eq_decoded]
    rfl
  · intro other
    rw [answerOf, once] at other
    cases other
  · intro second request walker walk address block waits level vpn read
    have level := level.trans leaf
    have entry : refill.entryOf request.vpn = ⟨leafAt refill.block request.vpn⟩ := by
      rw [Refill.entryOf, if_pos leaf]
    rw [StageTwoWalker.reply_decoded params registers waits read
      (by rw [level]; exact Pte.ends_leafLevel _ _ _), vpn, level]
    have same := stageTwo_of_hit (by simp [CheckedLookup.isHit, hit])
      (show (answerStageOne registers checked).level = leafLevel by rw [shown])
      (show (answerStageOne registers checked).selected =
          (refill.entryOf request.vpn).decoded .stageTwo params.addressBits leafLevel by
        rw [shown, entry, ← second]
        simp [StageOneResult.selected, leafAt, request, answerOf])
    rw [same]
    rfl

/-- The hit on a superpage, or on a page fault that is kept with them, agrees with the
walkers that read its entry. -/
theorem agrees_of_superpage
    (backed : checked.Backed (origins params changes before)) {line : SuperpageLine}
    (hit : checked.superpage = some line) (once : checked.sector = none) :
    ∃ written refill, refill.Stands changes before written ∧
      (answerOf registers checked).Agrees params registers refill := by
  obtain ⟨⟨written, refill, stands, stored, made, lineLevel, slot⟩, matching⟩ :=
    backed.superpage line hit
  have above := (Refill.level_of_storage stored).2.2.2 rfl
  rw [made] at matching
  have concerns := concerns_of_matches stored matching (by
    rw [refillRegion, if_neg (Nat.ne_of_lt above), lineLevel])
  rw [concerns.mode] at slot
  have inside : checked.lookup.request.mode.accessFault refill.selected params.addressBits =
      false := (congrArg Slot.accessFault slot).symm
  have entry : refill.entryOf checked.lookup.request.vpn = refill.selected := by
    rw [Refill.entryOf, if_neg (Nat.ne_of_lt above)]
  have shown : answerStageOne registers checked =
      { tag := sectorTag checked.lookup.request.vpn
        asid := registers.asid checked.lookup.request.mode
        vmid := registers.vmid
        prefetch := checked.lookup.request.isPrefetch
        index := sectorIndex checked.lookup.request.vpn
        level := refill.level
        slots := Vector.replicate 8
          (refill.selected.decoded checked.lookup.request.mode params.addressBits
            refill.level) } := by
    rw [← slot, ← lineLevel, answerStageOne, hit, once]
  refine ⟨written, refill, stands, concerns, ?_, fun _ => ⟨above, ?_⟩, ?_⟩
  · intro other
    rw [answerOf, once] at other
    cases other
  · intro walker walk address block waits level vpn mode read
    have stageOne : (answerOf registers checked).stageOne = _ := shown
    have request : (answerOf registers checked).lookup.request = checked.lookup.request := rfl
    rw [request] at vpn mode read
    rw [entry] at read
    rw [← mode] at inside
    have responds := UpperWalker.respondsWith_decoded params registers waits read inside
      (by rw [level]; exact Refill.ends_of_superpage stored)
    rw [stageOne, ← level, ← vpn, ← mode]
    exact responds
  · intro second request walker walk address block waits level vpn read
    have stage : checked.lookup.request.mode = .stageTwo := second
    have read : entryAt block address = refill.selected.raw := by rw [read, ← entry]; rfl
    rw [StageTwoWalker.reply_decoded params registers waits read
      (by rw [level]; exact Refill.ends_of_superpage stored), vpn, level]
    have same := stageTwo_of_hit (by simp [CheckedLookup.isHit, hit])
      (show (answerStageOne registers checked).level = refill.level by rw [shown])
      (show (answerStageOne registers checked).selected =
          refill.selected.decoded .stageTwo params.addressBits refill.level by
        rw [shown, ← stage]
        simp [StageOneResult.selected])
    rw [same]
    rfl

/-- At every point of a history in which no line is corrupted, a hit that comes in a step
agrees with the walkers that read what a refill has brought. -/
theorem agrees_of_run
    {params : Params} {cache : Cache} (created : Cache.create params = .ok cache)
    (registers : Registers) {moves : List Move}
    (intact : ∀ move ∈ moves, move.corrupts = false) :
    let history := (History.run params moves ⟨cache, registers, [], []⟩).state
    history.cache.answer = none →
    ∀ answer, (Cache.tick params history.registers history.cache).state.answer = some answer →
      answer.hit = true →
      ∃ written refill, refill.Stands history.changes history.changes.length written ∧
        answer.Agrees params history.registers refill := by
  intro history free answer found hit
  let Kept (history : History) : Prop :=
    history.cache.Stocked (origins params history.changes history.changes.length)
  have start : Kept ⟨cache, registers, [], []⟩ := (stocked_of_create created).1
  have step (move : Move) (member : move ∈ moves) (current : History) (before : Kept current) :
      Kept (current.perform params move).state := stocked_perform before (intact move member)
  have stocked : Kept history := Outcome.forEach_state_induction step start
  obtain ⟨checked, present, once, rfl⟩ := tick_answer free found
  have backed := stocked.piped.checked checked present
  have either : checked.isHit = true := hit
  rcases once with noSector | noSuperpage
  · rw [CheckedLookup.isHit, noSector] at either
    obtain ⟨line, line_found⟩ := Option.isSome_iff_exists.1 either
    exact agrees_of_superpage backed line_found noSector
  · rw [CheckedLookup.isHit, noSuperpage, Option.isSome_none, Bool.or_false] at either
    obtain ⟨line, line_found⟩ := Option.isSome_iff_exists.1 either
    exact agrees_of_sector backed line_found noSuperpage

/-- A guest page is found in a sector, and another one in a superpage. -/
theorem agrees_of_small_runs :
    let block : Block := Vector.replicate 8 0x1dccf
    let leaf : Refill :=
      { level := leafLevel, request := { vpn := 5, mode := .stageTwo }, selected := ⟨0x1dccf⟩,
        block }
    let superpage : Refill :=
      { level := 1, request := { vpn := 0x400, mode := .stageTwo }, selected := ⟨0x800cf⟩ }
    ∀ lookup ∈ ([(6, leafLevel, 0x77), (0x4ff, 1, 0x200)] : List (Word × Nat × Word)),
      let moves : List Move :=
        [.refill leaf, .refill superpage, .tick,
          .send { request := { vpn := lookup.1, mode := .stageTwo } }, .tick, .tick]
      ∃ cache, Cache.create .small = .ok cache ∧ (∀ move ∈ moves, move.corrupts = false) ∧
        let history := (History.run .small moves ⟨cache, {}, [], []⟩).state
        let after := (Cache.tick .small history.registers history.cache).state
        history.cache.answer = none ∧
          after.answer.map (fun answer =>
              (answer.hit, answer.stageTwo.level, answer.stageTwo.ppn)) =
            some (true, lookup.2) ∧
          ∀ answer, after.answer = some answer → answer.hit = true →
            ∃ written refill,
              refill.Stands history.changes history.changes.length written ∧
                answer.Agrees .small history.registers refill := by
  intro block leaf superpage lookup member moves
  have created : Cache.create .small = .ok _ := rfl
  have intact : ∀ move ∈ moves, move.corrupts = false := by
    simp [moves, Move.corrupts]
  refine ⟨_, created, intact, ?_⟩
  simp only [List.mem_cons, List.not_mem_nil, or_false] at member
  rcases member with rfl | rfl
  · exact ⟨by decide +kernel, by decide +kernel,
      agrees_of_run created {} intact (by decide +kernel)⟩
  · exact ⟨by decide +kernel, by decide +kernel,
      agrees_of_run created {} intact (by decide +kernel)⟩

end Cache

end PageWalk
