import PageWalk.Proofs.Cache.Stages

/-!
# What the lines of the cache are good for

Facts about lines, followed through the cache. If every refill brings lines that the
facts hold of, they hold of every valid line, of every line that was read for a
lookup, and every answer is made of such lines. Codes, policies and the choice of
sets and ways play no part: they only decide which lines there are.
-/

namespace PageWalk

/-- A property for the lines of each storage. -/
structure LineFacts where
  root : PointerLine → Prop
  middle : PointerLine → Prop
  sector : SectorLine → Prop
  superpage : SuperpageLine → Prop

/-- Facts that follow from others, storage by storage. -/
structure LineFacts.Implies (facts others : LineFacts) : Prop where
  root : ∀ line, facts.root line → others.root line
  middle : ∀ line, facts.middle line → others.middle line
  sector : ∀ line, facts.sector line → others.sector line
  superpage : ∀ line, facts.superpage line → others.superpage line

/-- The facts, of lines that serve a mode under some registers. -/
def LineFacts.serving (facts : LineFacts) (registers : Registers) (mode : Mode) : LineFacts where
  root := fun line => facts.root line ∧ line.tag.serves registers mode = true
  middle := fun line => facts.middle line ∧ line.tag.serves registers mode = true
  sector := fun line => facts.sector line ∧ line.tag.serves registers mode = true
  superpage := fun line => facts.superpage line ∧ line.tag.serves registers mode = true

theorem LineFacts.serving_implies (facts : LineFacts) (registers : Registers) (mode : Mode) :
    (facts.serving registers mode).Implies facts :=
  ⟨fun _ => And.left, fun _ => And.left, fun _ => And.left, fun _ => And.left⟩

theorem LineFacts.Implies.serving
    {facts others : LineFacts} (implies : facts.Implies others) (registers : Registers)
    (mode : Mode) : (facts.serving registers mode).Implies (others.serving registers mode) where
  root := fun line => And.imp_left (implies.root line)
  middle := fun line => And.imp_left (implies.middle line)
  sector := fun line => And.imp_left (implies.sector line)
  superpage := fun line => And.imp_left (implies.superpage line)

/-- Every valid line has a property. -/
def Stock {Line : Type} (tag : Line → LineTag) (fact : Line → Prop) (lines : Array Line) :
    Prop :=
  ∀ (index : Nat) (line : Line), lines[index]? = some line → (tag line).valid = true → fact line

namespace Stock

variable {Line : Type} {tag : Line → LineTag} {fact other : Line → Prop} {lines : Array Line}

theorem imp
    (stock : Stock tag fact lines) (implies : ∀ line, fact line → other line) :
    Stock tag other lines :=
  fun index line found valid => implies line (stock index line found valid)

theorem getD
    (stock : Stock tag fact lines) {missing : Line} (invalid : (tag missing).valid = false)
    {index : Nat} (valid : (tag (lines.getD index missing)).valid = true) :
    fact (lines.getD index missing) := by
  rw [Array.getD_eq_getD_getElem?] at valid ⊢
  cases found : lines[index]? with
  | none =>
      rw [found] at valid
      exact absurd valid (by simp [invalid])
  | some line =>
      rw [found] at valid
      exact stock index line found valid

theorem setIfInBounds
    (stock : Stock tag fact lines) {line : Line} (good : fact line) (index : Nat) :
    Stock tag fact (lines.setIfInBounds index line) := by
  intro tested other found valid
  rw [Array.getElem?_setIfInBounds] at found
  split at found
  · split at found
    · cases found
      exact good
    · cases found
  · exact stock tested other found valid

theorem modify
    (stock : Stock tag fact lines) {change : Line → Line}
    (keeps : ∀ line, (tag (change line)).valid = true →
      (tag line).valid = true ∧ (fact line → fact (change line)))
    (index : Nat) : Stock tag fact (lines.modify index change) := by
  intro tested other found valid
  rw [Array.getElem?_modify] at found
  split at found
  · obtain ⟨line, lineFound, rfl⟩ := Option.map_eq_some_iff.1 found
    obtain ⟨validBefore, good⟩ := keeps line valid
    exact good (stock tested line lineFound validBefore)
  · exact stock tested other found valid

theorem map
    (stock : Stock tag fact lines) {change : Line → Line}
    (keeps : ∀ line, (tag (change line)).valid = true →
      (tag line).valid = true ∧ (fact line → other (change line))) :
    Stock tag other (lines.map change) := by
  intro tested last found valid
  rw [Array.getElem?_map] at found
  obtain ⟨line, lineFound, rfl⟩ := Option.map_eq_some_iff.1 found
  obtain ⟨validBefore, good⟩ := keeps line valid
  exact good (stock tested line lineFound validBefore)

theorem replicate
    {line : Line} (invalid : (tag line).valid = false) (count : Nat) :
    Stock tag fact (Array.replicate count line) := by
  intro tested other found valid
  rw [Array.getElem?_replicate] at found
  split at found
  · cases found
    rw [invalid] at valid
    cases valid
  · cases found

end Stock

/-- Only the lines that are not selected stay valid. -/
private theorem keeps_of_invalidated
    {Line : Type} {tag : Line → LineTag} {fact other : Line → Prop} {invalidate : Line → Line}
    (invalid : ∀ line, (tag (invalidate line)).valid = false) {select : Line → Bool}
    (implies : ∀ line, select line = false → fact line → other line) (line : Line)
    (valid : (tag (if select line then invalidate line else line)).valid = true) :
    (tag line).valid = true ∧
      (fact line → other (if select line then invalidate line else line)) := by
  cases selected : select line with
  | true =>
      simp only [selected, if_true, invalid, Bool.false_eq_true] at valid
  | false =>
      simp only [selected, Bool.false_eq_true, if_false] at valid
      exact ⟨valid, implies line selected⟩

/-- A line that serves a mode is valid and was refilled under it. -/
theorem LineTag.serves_spec
    {tag : LineTag} {registers : Registers} {mode : Mode}
    (served : tag.serves registers mode = true) : tag.valid = true ∧ tag.mode = mode := by
  unfold serves at served
  simp only [Bool.and_eq_true, beq_iff_eq] at served
  exact served.1.1

/-- A line of a region, refilled under the mode of a request. -/
def LineTag.Matches (tag : LineTag) (request : Request) (region : Word) : Prop :=
  tag.mode = request.mode ∧ tag.region = region

/-- The facts hold of the lines that were found for a request, and all of them cover
it. -/
structure Backed (facts : LineFacts) (request : Request) (root middle : Option PointerLine)
    (sector : Option SectorLine) (superpage : Option SuperpageLine) : Prop where
  root : ∀ line, root = some line →
    facts.root line ∧ line.tag.Matches request (regionTag request.vpn 0)
  middle : ∀ line, middle = some line →
    facts.middle line ∧ line.tag.Matches request (regionTag request.vpn 1)
  sector : ∀ line, sector = some line →
    facts.sector line ∧ line.tag.Matches request (sectorTag request.vpn)
  superpage : ∀ line, superpage = some line →
    facts.superpage line ∧ line.tag.Matches request (regionTag request.vpn line.level)

theorem Backed.imp
    {facts others : LineFacts} {request : Request} {root middle : Option PointerLine}
    {sector : Option SectorLine} {superpage : Option SuperpageLine}
    (backed : Backed facts request root middle sector superpage)
    (implies : facts.Implies others) :
    Backed others request root middle sector superpage where
  root := fun line found => (backed.root line found).imp_left (implies.root line)
  middle := fun line found => (backed.middle line found).imp_left (implies.middle line)
  sector := fun line found => (backed.sector line found).imp_left (implies.sector line)
  superpage := fun line found =>
    (backed.superpage line found).imp_left (implies.superpage line)

/-- The facts hold of the lines that the check of a lookup has left. -/
def CheckedLookup.Backed (facts : LineFacts) (checked : CheckedLookup) : Prop :=
  PageWalk.Backed facts checked.lookup.request checked.root checked.middle checked.sector
    checked.superpage

/-- An answer that is made of lines that the facts hold of. Refills may have marked it
since. -/
def CacheAnswer.Backed (facts : LineFacts) (answer : CacheAnswer) : Prop :=
  ∃ checked : CheckedLookup, checked.Backed facts ∧
    ∃ registers bypassed,
      answer = { Cache.answerOf registers checked with bypassed := bypassed }

/-- The facts hold of the line that a refill brings to the storage of its level. -/
structure Refill.Brings (refill : Refill) (facts : LineFacts) (params : Params)
    (registers : Registers) : Prop where
  root : refill.request.mode.accessFault refill.selected params.addressBits = false →
    refill.level = 0 → refill.selected.isLeaf = false →
    refill.selected.pageFaultAt refill.level = false →
    facts.root
      { tag := .ofRefill registers refill.request (regionTag refill.request.vpn 0)
          refill.selected.global
        ppn := refill.selected.ppn }
  middle : refill.request.mode.accessFault refill.selected params.addressBits = false →
    refill.level = 1 → refill.selected.isLeaf = false →
    refill.selected.pageFaultAt refill.level = false →
    ∀ code, facts.middle
      { tag := .ofRefill registers refill.request (regionTag refill.request.vpn 1)
          refill.selected.global
        ppn := refill.selected.ppn
        code := code }
  sector : refill.request.mode.accessFault refill.selected params.addressBits = false →
    refill.level = leafLevel →
    ∀ code, facts.sector
      { tag := .ofRefill registers refill.request (sectorTag refill.request.vpn)
          (Cache.allGlobal refill.block)
        slots := refill.block.map fun word =>
          LeafSlot.ofPte refill.request.mode params.addressBits ⟨word⟩
        code := code }
  superpage : refill.request.mode.accessFault refill.selected params.addressBits = false →
    refill.level < leafLevel →
    refill.selected.isLeaf = true ∨ refill.selected.pageFaultAt refill.level = true →
    facts.superpage
      { tag := .ofRefill registers refill.request (regionTag refill.request.vpn refill.level)
          refill.selected.global
        level := refill.level
        ppn := refill.selected.ppn
        permissions := refill.selected.permissions
        translates := !refill.selected.pageFaultAt refill.level }

namespace Cache

variable {facts others : LineFacts}

/-- The facts hold of every valid line. -/
structure Shelved (facts : LineFacts) (cache : Cache) : Prop where
  roots : Stock (·.tag) facts.root cache.roots
  middles : Stock (·.tag) facts.middle cache.middles
  sectors : Stock (·.tag) facts.sector cache.sectors
  superpages : Stock (·.tag) facts.superpage cache.superpages

/-- The facts hold of every line that was read for a lookup on its way. -/
structure Piped (facts : LineFacts) (cache : Cache) : Prop where
  reading : ∀ read, cache.reading = some read →
    Backed facts read.lookup.request (read.root.map (·.line)) (read.middle.map (·.line))
      (read.sector.map (·.line)) (read.superpage.map (·.line))
  checked : ∀ checked, cache.checked = some checked → checked.Backed facts
  answer : ∀ answer, cache.answer = some answer → answer.Backed facts

/-- The facts hold of all lines of the cache. -/
structure Stocked (facts : LineFacts) (cache : Cache) : Prop where
  shelved : Shelved facts cache
  piped : Piped facts cache

theorem Stocked.imp
    {cache : Cache} (stocked : Stocked facts cache) (implies : facts.Implies others) :
    Stocked others cache := by
  have shelved := stocked.shelved
  have piped := stocked.piped
  refine ⟨⟨shelved.roots.imp implies.root, shelved.middles.imp implies.middle,
    shelved.sectors.imp implies.sector, shelved.superpages.imp implies.superpage⟩, ?_, ?_, ?_⟩
  · exact fun read found => (piped.reading read found).imp implies
  · exact fun checked found => (piped.checked checked found).imp implies
  · intro answer found
    obtain ⟨checked, backed, made⟩ := piped.answer answer found
    exact ⟨checked, backed.imp implies, made⟩

theorem Piped.of_sameStages
    {cache after : Cache} (piped : Piped facts cache) (same : SameStages cache after) :
    Piped facts after where
  reading := by
    rw [same.reading]
    exact piped.reading
  checked := by
    rw [same.checked]
    exact piped.checked
  answer := by
    rw [same.answer]
    exact piped.answer

theorem piped_of_empty
    {cache : Cache} (reading : cache.reading = none) (checked : cache.checked = none)
    (answer : cache.answer = none) : Piped facts cache where
  reading := by
    rw [reading]
    intro _ found
    cases found
  checked := by
    rw [checked]
    intro _ found
    cases found
  answer := by
    rw [answer]
    intro _ found
    cases found

/-! ## Reading -/

theorem spec_of_firstHit
    {Line : Type} {ways : Nat} {line : Nat → Line} {serves : Line → Bool} {hit : Hit Line}
    (found : firstHit ways line serves = some hit) :
    hit.way < ways ∧ hit.line = line hit.way ∧ serves hit.line = true := by
  obtain ⟨way, first, rfl⟩ := Option.map_eq_some_iff.1 found
  have served := List.find?_some first
  exact ⟨List.mem_range.1 (List.mem_of_find?_eq_some first), rfl, served⟩

theorem isSome_firstHit_iff
    {Line : Type} (ways : Nat) (line : Nat → Line) (serves : Line → Bool) :
    (firstHit ways line serves).isSome = true ↔ ∃ way < ways, serves (line way) = true := by
  unfold firstHit
  rw [Option.isSome_map, List.find?_isSome]
  simp only [List.mem_range]

private theorem firstHit_spec
    {Line : Type} {ways : Nat} {line : Nat → Line} {serves : Line → Bool} {found : Line}
    (hit : (firstHit ways line serves).map (·.line) = some found) :
    serves found = true ∧ ∃ way, found = line way := by
  obtain ⟨first, taken, rfl⟩ := Option.map_eq_some_iff.1 hit
  obtain ⟨_, same, served⟩ := spec_of_firstHit taken
  exact ⟨served, first.way, same⟩

/-- The lines that are read for a lookup serve it. -/
theorem Shelved.read
    {cache : Cache} (shelved : Shelved facts cache) (params : Params) (registers : Registers)
    (waiting : WaitingLookup) :
    Backed (facts.serving registers waiting.lookup.request.mode) waiting.lookup.request
      ((cache.findRoot registers waiting.lookup.request).map (·.line))
      ((cache.findMiddle params registers waiting.lookup.request).map (·.line))
      ((cache.findSector params registers waiting.lookup.request).map (·.line))
      ((cache.findSuperpage registers waiting.lookup.request).map (·.line)) := by
  constructor
  · intro line found
    obtain ⟨served, way, taken⟩ := firstHit_spec found
    simp only [Bool.and_eq_true, beq_iff_eq] at served
    obtain ⟨valid, mode⟩ := LineTag.serves_spec served.1
    refine ⟨⟨?_, served.1⟩, mode, served.2⟩
    rw [taken] at valid ⊢
    exact shelved.roots.getD rfl valid
  · intro line found
    obtain ⟨served, way, taken⟩ := firstHit_spec found
    simp only [Bool.and_eq_true, beq_iff_eq] at served
    obtain ⟨valid, mode⟩ := LineTag.serves_spec served.1
    refine ⟨⟨?_, served.1⟩, mode, served.2⟩
    rw [taken] at valid ⊢
    exact shelved.middles.getD rfl valid
  · intro line found
    obtain ⟨served, way, taken⟩ := firstHit_spec found
    simp only [Bool.and_eq_true, beq_iff_eq] at served
    obtain ⟨valid, mode⟩ := LineTag.serves_spec served.1
    refine ⟨⟨?_, served.1⟩, mode, served.2⟩
    rw [taken] at valid ⊢
    exact shelved.sectors.getD rfl valid
  · intro line found
    obtain ⟨served, way, taken⟩ := firstHit_spec found
    simp only [Bool.and_eq_true, beq_iff_eq] at served
    obtain ⟨valid, mode⟩ := LineTag.serves_spec served.1
    refine ⟨⟨?_, served.1⟩, mode, served.2⟩
    rw [taken] at valid ⊢
    exact shelved.superpages.getD rfl valid

theorem Stocked.readStage
    {cache : Cache} (stocked : Stocked facts cache) (params : Params) (registers : Registers) :
    Stocked facts (readStage params registers cache) := by
  unfold Cache.readStage
  split
  · rename_i waiting _ _
    refine ⟨⟨stocked.shelved.roots, stocked.shelved.middles, stocked.shelved.sectors,
      stocked.shelved.superpages⟩, ⟨?_, stocked.piped.checked, stocked.piped.answer⟩⟩
    intro read found
    cases found
    exact (stocked.shelved.read params registers waiting).imp (facts.serving_implies _ _)
  · exact stocked

/-! ## Checking -/

theorem Shelved.clearMiddleSet
    {cache : Cache} (shelved : Shelved facts cache) (params : Params) (set : UInt32) :
    Shelved facts (clearMiddleSet params set cache) := by
  refine ⟨shelved.roots, ?_, shelved.sectors, shelved.superpages⟩
  unfold Cache.clearMiddleSet
  generalize List.range params.middleWays.toNat = ways
  have start := shelved.middles
  generalize cache.middles = lines at start ⊢
  induction ways generalizing lines with
  | nil => exact start
  | cons way ways inductionHypothesis =>
      exact inductionHypothesis _ (start.modify (fun line valid => by cases valid) _)

theorem Shelved.clearSectorSet
    {cache : Cache} (shelved : Shelved facts cache) (params : Params) (set : UInt32) :
    Shelved facts (clearSectorSet params set cache) := by
  refine ⟨shelved.roots, shelved.middles, ?_, shelved.superpages⟩
  unfold Cache.clearSectorSet
  generalize List.range params.sectorWays.toNat = ways
  have start := shelved.sectors
  generalize cache.sectors = lines at start ⊢
  induction ways generalizing lines with
  | nil => exact start
  | cons way ways inductionHypothesis =>
      exact inductionHypothesis _ (start.modify (fun line valid => by cases valid) _)

theorem CheckPart.shelved
    {params : Params} {cache after : Cache} (part : CheckPart params cache after)
    (shelved : Shelved facts cache) : Shelved facts after := by
  cases part with
  | missed => exact shelved
  | root | middle | sector | superpage =>
      exact ⟨shelved.roots, shelved.middles, shelved.sectors, shelved.superpages⟩
  | middleCleared set =>
      have cleared := shelved.clearMiddleSet params set
      exact ⟨cleared.roots, cleared.middles, cleared.sectors, cleared.superpages⟩
  | sectorCleared set =>
      have cleared := shelved.clearSectorSet params set
      exact ⟨cleared.roots, cleared.middles, cleared.sectors, cleared.superpages⟩

/-- The check drops lines but brings none in. -/
theorem Shelved.afterCheck
    {cache : Cache} (shelved : Shelved facts cache) (params : Params) (read : ReadLookup) :
    Shelved facts (afterCheck params read cache) :=
  afterCheck_induction read (fun _ _ shelved part => part.shelved shelved) shelved

private theorem checkMiddle_line
    {params : Params} {request : Request} {hit : Option (Hit PointerLine)} {cache : Cache}
    {line : PointerLine} (found : (checkMiddle params request hit cache).line = some line) :
    hit.map (·.line) = some line := by
  unfold Cache.checkMiddle at found
  dsimp only at found
  split at found
  · cases found
  · split at found
    · cases found
    · exact found

private theorem checkSector_line
    {params : Params} {request : Request} {hit : Option (Hit SectorLine)} {cache : Cache}
    {line : SectorLine} (found : (checkSector params request hit cache).line = some line) :
    hit.map (·.line) = some line := by
  unfold Cache.checkSector at found
  dsimp only at found
  split at found
  · cases found
  · split at found
    · cases found
    · exact found

/-- The lines that pass the check are among those that were read. -/
theorem backed_checkedOf
    (params : Params) {read : ReadLookup} (cache : Cache)
    (backed :
      Backed facts read.lookup.request (read.root.map (·.line)) (read.middle.map (·.line))
        (read.sector.map (·.line)) (read.superpage.map (·.line))) :
    (checkedOf params read cache).Backed facts where
  root := backed.root
  middle := fun line found => backed.middle line (checkMiddle_line found)
  sector := fun line found => backed.sector line (checkSector_line found)
  superpage := backed.superpage

theorem Stocked.check
    {cache : Cache} (stocked : Stocked facts cache) (params : Params) {read : ReadLookup}
    (backed :
      Backed facts read.lookup.request (read.root.map (·.line)) (read.middle.map (·.line))
        (read.sector.map (·.line)) (read.superpage.map (·.line))) :
    Stocked facts (check params read cache).state := by
  have shelved := stocked.shelved.afterCheck params read
  have stages := afterCheck_stages params read cache
  have checkedBacked := backed_checkedOf params cache backed
  rw [(check_spec params read cache).1]
  generalize afterCheck params read cache = left at shelved stages ⊢
  generalize checkedOf params read cache = checked at checkedBacked ⊢
  have piped := stocked.piped.of_sameStages stages
  refine ⟨⟨shelved.roots, shelved.middles, shelved.sectors, shelved.superpages⟩,
    ⟨piped.reading, ?_, piped.answer⟩⟩
  intro other found
  cases found
  exact checkedBacked

theorem Stocked.checkStage
    {cache : Cache} (stocked : Stocked facts cache) (params : Params) :
    Stocked facts (checkStage params cache).state := by
  unfold Cache.checkStage
  split
  · rename_i read _ found
    have taken : Stocked facts { cache with reading := none } :=
      ⟨⟨stocked.shelved.roots, stocked.shelved.middles, stocked.shelved.sectors,
        stocked.shelved.superpages⟩,
        ⟨fun _ found => (by cases found), stocked.piped.checked, stocked.piped.answer⟩⟩
    exact taken.check params (stocked.piped.reading read found)
  · exact stocked

/-! ## Answering -/

theorem Stocked.respond
    {cache : Cache} (stocked : Stocked facts cache) (params : Params) (registers : Registers)
    {checked : CheckedLookup} (backed : checked.Backed facts) :
    Stocked facts (respond params registers checked cache).state := by
  unfold Cache.respond
  split
  · exact stocked
  · have answered : (answerOf registers checked).Backed facts :=
      ⟨checked, backed, registers, (answerOf registers checked).bypassed, rfl⟩
    generalize answerOf registers checked = answer at answered ⊢
    refine ⟨⟨stocked.shelved.roots, stocked.shelved.middles, stocked.shelved.sectors,
      stocked.shelved.superpages⟩,
      ⟨stocked.piped.reading, fun _ found => (by cases found), ?_⟩⟩
    intro other found
    cases found
    exact answered

theorem Stocked.respondStage
    {cache : Cache} (stocked : Stocked facts cache) (params : Params) (registers : Registers) :
    Stocked facts (respondStage params registers cache).state := by
  unfold Cache.respondStage
  split
  · rename_i checked _ found
    exact stocked.respond params registers (stocked.piped.checked checked found)
  · exact stocked

theorem Stocked.endStep
    {cache : Cache} (stocked : Stocked facts cache) : Stocked facts cache.endStep :=
  ⟨⟨stocked.shelved.roots, stocked.shelved.middles, stocked.shelved.sectors,
    stocked.shelved.superpages⟩, ⟨stocked.piped.reading, stocked.piped.checked,
    stocked.piped.answer⟩⟩

/-- A step keeps the facts, also when it stops. -/
theorem Stocked.tick
    {cache : Cache} (stocked : Stocked facts cache) (params : Params) (registers : Registers) :
    Stocked facts (tick params registers cache).state := by
  unfold Cache.tick
  refine Outcome.andThen_state_induction (stocked.respondStage params registers) ?_
  intro _ responded
  refine Outcome.andThen_state_induction (responded.checkStage params) ?_
  intro _ checked
  exact (checked.readStage params registers).endStep

/-! ## Accepting a lookup and taking the answer -/

theorem Stocked.withoutAnswer
    {cache : Cache} (stocked : Stocked facts cache) (answer : CacheAnswer) :
    Stocked facts (cache.withoutAnswer answer) :=
  ⟨⟨stocked.shelved.roots, stocked.shelved.middles, stocked.shelved.sectors,
    stocked.shelved.superpages⟩,
    ⟨stocked.piped.reading, stocked.piped.checked, fun _ found => by cases found⟩⟩

theorem Stocked.send
    {cache : Cache} (stocked : Stocked facts cache) (params : Params) (lookup : Lookup) :
    Stocked facts (send params lookup cache).2.state := by
  have shelved := stocked.shelved
  have piped := stocked.piped
  obtain ⟨_, ⟨_, _, state⟩ | ⟨_, _, state⟩⟩ := send_cases params lookup cache
  all_goals
    rw [state]
    exact ⟨{ shelved with }, { piped with }⟩

theorem Stocked.pop
    {cache : Cache} (stocked : Stocked facts cache) (params : Params) :
    Stocked facts (pop params cache).state := by
  unfold Cache.pop
  split
  · exact stocked.withoutAnswer _
  · exact stocked

/-! ## Refills -/

private theorem Stocked.refillRoot
    {cache : Cache} {params : Params} {registers : Registers} {refill : Refill}
    (stocked : Stocked facts cache)
    (good : facts.root
      { tag := .ofRefill registers refill.request (regionTag refill.request.vpn 0)
          refill.selected.global
        ppn := refill.selected.ppn }) :
    Shelved facts (refillRoot params registers refill cache).state := by
  have shelved := stocked.shelved
  unfold Cache.refillRoot
  dsimp only
  generalize cache.rootPolicy.choose 0 (fun way => (cache.rootLine way).tag.valid) = chosen
  exact ⟨shelved.roots.setIfInBounds good _, shelved.middles, shelved.sectors,
    shelved.superpages⟩

private theorem Stocked.refillMiddle
    {cache : Cache} {params : Params} {registers : Registers} {refill : Refill}
    (stocked : Stocked facts cache)
    (good : ∀ code, facts.middle
      { tag := .ofRefill registers refill.request (regionTag refill.request.vpn 1)
          refill.selected.global
        ppn := refill.selected.ppn
        code := code }) :
    Shelved facts (refillMiddle params registers refill cache).state := by
  have shelved := stocked.shelved
  unfold Cache.refillMiddle
  dsimp only
  generalize cache.middlePolicy.choose _ _ = chosen
  exact ⟨shelved.roots, shelved.middles.setIfInBounds (good _) _, shelved.sectors,
    shelved.superpages⟩

private theorem Stocked.refillSector
    {cache : Cache} {params : Params} {registers : Registers} {refill : Refill}
    (stocked : Stocked facts cache)
    (good : ∀ code, facts.sector
      { tag := .ofRefill registers refill.request (sectorTag refill.request.vpn)
          (allGlobal refill.block)
        slots := refill.block.map fun word =>
          LeafSlot.ofPte refill.request.mode params.addressBits ⟨word⟩
        code := code }) :
    Shelved facts (refillSector params registers refill cache).state := by
  have shelved := stocked.shelved
  unfold Cache.refillSector
  dsimp only
  generalize cache.sectorPolicy.choose _ _ = chosen
  exact ⟨shelved.roots, shelved.middles, shelved.sectors.setIfInBounds (good _) _,
    shelved.superpages⟩

private theorem Stocked.refillSuperpage
    {cache : Cache} {params : Params} {registers : Registers} {refill : Refill}
    (stocked : Stocked facts cache)
    (good : facts.superpage
      { tag := .ofRefill registers refill.request (regionTag refill.request.vpn refill.level)
          refill.selected.global
        level := refill.level
        ppn := refill.selected.ppn
        permissions := refill.selected.permissions
        translates := !refill.selected.pageFaultAt refill.level }) :
    Shelved facts (refillSuperpage params registers refill cache).state := by
  have shelved := stocked.shelved
  unfold Cache.refillSuperpage
  dsimp only
  generalize cache.superpagePolicy.choose _ _ = chosen
  exact ⟨shelved.roots, shelved.middles, shelved.sectors,
    shelved.superpages.setIfInBounds good _⟩

theorem Stocked.store
    {cache : Cache} {params : Params} {registers : Registers} {refill : Refill}
    (stocked : Stocked facts cache) (brings : refill.Brings facts params registers)
    (inside : refill.request.mode.accessFault refill.selected params.addressBits = false)
    (level : refill.level ≤ leafLevel) :
    Stocked facts (store params registers refill cache).state := by
  refine ⟨?_, stocked.piped.of_sameStages (store_spec params registers cache level).1⟩
  unfold Cache.store
  split
  · rename_i upper
    split
    · rename_i ends
      exact stocked.refillSuperpage (brings.superpage inside upper (by simpa using ends))
    · rename_i pointer
      have pointer : refill.selected.isLeaf = false ∧
          refill.selected.pageFaultAt refill.level = false := by
        simpa using pointer
      split
      · rename_i root
        exact stocked.refillRoot (brings.root inside root pointer.1 pointer.2)
      · rename_i notRoot
        have middle : refill.level = 1 := by
          unfold leafLevel at upper
          omega
        exact stocked.refillMiddle (brings.middle inside middle pointer.1 pointer.2)
  · rename_i below
    have last : refill.level = leafLevel := by omega
    rw [if_pos last]
    exact stocked.refillSector (brings.sector inside last)

theorem Stocked.markLookups
    {cache : Cache} (stocked : Stocked facts cache) (refill : Refill) :
    Stocked facts (markLookups refill cache) := by
  refine ⟨⟨stocked.shelved.roots, stocked.shelved.middles, stocked.shelved.sectors,
    stocked.shelved.superpages⟩, ⟨?_, ?_, ?_⟩⟩
  · intro read found
    obtain ⟨before, beforeFound, rfl⟩ := Option.map_eq_some_iff.1 found
    exact stocked.piped.reading before beforeFound
  · intro checked found
    obtain ⟨before, beforeFound, rfl⟩ := Option.map_eq_some_iff.1 found
    exact stocked.piped.checked before beforeFound
  · intro answer found
    obtain ⟨before, beforeFound, rfl⟩ := Option.map_eq_some_iff.1 found
    obtain ⟨checked, backed, registers, bypassed, equal⟩ :=
      stocked.piped.answer before beforeFound
    refine ⟨checked, backed, registers, ?_⟩
    unfold markAnswer
    split
    · exact ⟨_, by rw [equal]⟩
    · exact ⟨bypassed, equal⟩

/-- A refill keeps the facts if they hold of the line that it brings. -/
theorem Stocked.refill
    {cache : Cache} {params : Params} {registers : Registers} {refill : Refill}
    (stocked : Stocked facts cache) (brings : refill.Brings facts params registers)
    (level : refill.level ≤ leafLevel) :
    Stocked facts (Cache.refill params registers refill cache).state := by
  have shelved := stocked.shelved
  have piped := stocked.piped
  have recounted (counters : CacheCounters) (refilled : Bool) :
      Stocked facts { cache with counters := counters, refilled := refilled } :=
    ⟨⟨shelved.roots, shelved.middles, shelved.sectors, shelved.superpages⟩,
      ⟨piped.reading, piped.checked, piped.answer⟩⟩
  unfold Cache.refill
  split
  · exact recounted _ _
  · dsimp only
    split
    · exact recounted _ _
    · rename_i inside
      refine Outcome.andThen_state_induction
        ((recounted _ true).store brings (Bool.eq_false_iff.2 inside) level) ?_
      intro _ stored
      exact stored.markLookups refill

/-! ## Flushes, fences and corruption -/

theorem Stocked.flush
    {cache : Cache} (stocked : Stocked facts cache) : Stocked facts cache.flush :=
  ⟨⟨stocked.shelved.roots, stocked.shelved.middles, stocked.shelved.sectors,
    stocked.shelved.superpages⟩, piped_of_empty rfl rfl rfl⟩

/-- What follows from the facts for the lines that a fence does not select. -/
structure FenceSpares (fence : Fence) (registers : Registers) (facts others : LineFacts) :
    Prop where
  root : ∀ line, fencesPointer fence registers line = false →
    facts.root line → others.root line
  middle : ∀ line, fencesPointer fence registers line = false →
    facts.middle line → others.middle line
  sector : ∀ line, fencesSector fence registers line = false →
    facts.sector line → others.sector line
  superpage : ∀ line, fencesSuperpage fence registers line = false →
    facts.superpage line → others.superpage line

theorem Stocked.fence_spares
    {cache : Cache} {registers : Registers} {fence : Fence} (stocked : Stocked facts cache)
    (params : Params) (spares : FenceSpares fence registers facts others) :
    Stocked others (Cache.fence params registers fence cache).state := by
  have shelved := stocked.shelved
  refine ⟨⟨?_, ?_, ?_, ?_⟩, piped_of_empty rfl rfl rfl⟩
  · exact shelved.roots.map (keeps_of_invalidated (fun _ => rfl) spares.root)
  · exact shelved.middles.map (keeps_of_invalidated (fun _ => rfl) spares.middle)
  · exact shelved.sectors.map (keeps_of_invalidated (fun _ => rfl) spares.sector)
  · exact shelved.superpages.map (keeps_of_invalidated (fun _ => rfl) spares.superpage)

theorem Stocked.fence
    {cache : Cache} (stocked : Stocked facts cache) (params : Params) (registers : Registers)
    (fence : Fence) : Stocked facts (Cache.fence params registers fence cache).state :=
  stocked.fence_spares params
    ⟨fun _ _ good => good, fun _ _ good => good, fun _ _ good => good, fun _ _ good => good⟩

/-- Corruption keeps facts about tags. -/
theorem Stocked.corrupt
    {cache : Cache} (stocked : Stocked facts cache) (params : Params) (level : Nat)
    (set way : UInt32)
    (middle : ∀ line other : PointerLine, line.tag = other.tag →
      facts.middle line → facts.middle other)
    (sector : ∀ line other : SectorLine, line.tag = other.tag →
      facts.sector line → facts.sector other) :
    Stocked facts (corrupt params level set way cache).state := by
  have shelved := stocked.shelved
  refine ⟨?_, stocked.piped.of_sameStages (corrupt_stages params level set way cache)⟩
  rcases corrupt_cases params level set way cache with
    same | ⟨change, tag, same⟩ | ⟨change, tag, same⟩
  · rw [same]
    exact shelved
  · rw [same]
    refine ⟨shelved.roots, ?_, shelved.sectors, shelved.superpages⟩
    refine Stock.modify shelved.middles (fun line valid => ?_) _
    exact ⟨by rw [← tag]; exact valid, middle line _ (tag line).symm⟩
  · rw [same]
    refine ⟨shelved.roots, shelved.middles, ?_, shelved.superpages⟩
    refine Stock.modify shelved.sectors (fun line valid => ?_) _
    exact ⟨by rw [← tag]; exact valid, sector line _ (tag line).symm⟩

/-- What a new cache is made of. -/
theorem create_spec
    {params : Params} {cache : Cache} (created : Cache.create params = .ok cache) :
    ∃ rootPolicy middlePolicy sectorPolicy superpagePolicy code,
      ReplacementPolicy.create params.rootPolicy 1 params.rootSize = .ok rootPolicy ∧
      ReplacementPolicy.create params.middlePolicy params.middleSets params.middleWays =
        .ok middlePolicy ∧
      ReplacementPolicy.create params.sectorPolicy params.sectorSets params.sectorWays =
        .ok sectorPolicy ∧
      ReplacementPolicy.create params.superpagePolicy 1 params.superpageSize =
        .ok superpagePolicy ∧
      cache =
        { roots := Array.replicate params.rootSize.toNat {}
          middles := Array.replicate (params.middleSets * params.middleWays).toNat {}
          sectors := Array.replicate (params.sectorSets * params.sectorWays).toNat {}
          superpages := Array.replicate params.superpageSize.toNat {}
          rootPolicy := rootPolicy
          middlePolicy := middlePolicy
          sectorPolicy := sectorPolicy
          superpagePolicy := superpagePolicy
          code := code } := by
  unfold Cache.create at created
  simp only [bind, Except.bind] at created
  split at created
  case h_1 => cases created
  rename_i root
  split at created
  case h_1 => cases created
  rename_i middle
  split at created
  case h_1 => cases created
  rename_i sector
  split at created
  case h_1 => cases created
  rename_i superpage
  split at created
  case h_1 => cases created
  cases created
  exact ⟨_, _, _, _, _, root, middle, sector, superpage, rfl⟩

theorem stocked_of_create
    {params : Params} {cache : Cache} (created : Cache.create params = .ok cache) :
    Stocked facts cache ∧ cache.lookups = [] := by
  obtain ⟨_, _, _, _, _, _, _, _, _, rfl⟩ := create_spec created
  refine ⟨⟨⟨?_, ?_, ?_, ?_⟩, piped_of_empty rfl rfl rfl⟩, rfl⟩
  · exact Stock.replicate rfl _
  · exact Stock.replicate rfl _
  · exact Stock.replicate rfl _
  · exact Stock.replicate rfl _

/-- No lookup is on its way through a new cache. -/
theorem lookups_of_create
    {params : Params} {cache : Cache} (created : Cache.create params = .ok cache) :
    cache.lookups = [] := by
  let anyLine : LineFacts := ⟨fun _ => True, fun _ => True, fun _ => True, fun _ => True⟩
  have new : cache.Stocked anyLine ∧ cache.lookups = [] := stocked_of_create created
  exact new.2

end Cache

end PageWalk
