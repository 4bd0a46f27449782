import PageWalk.Proofs.Answers
import PageWalk.Proofs.Cache.Stock

/-!
# What the lines of the cache say

Under one setting every line says something true about the walks of the page numbers in
its region: a pointer names the table that they come to, a sector holds their leaves,
and a superpage shows how they end. What a walker has read brings such lines, and the
answers that are made of them show the walk.
-/

namespace PageWalk

/-! ## Slots of lines -/

/-- The cache keeps what an entry says. -/
theorem toSlot_ofPte_decoded (mode : Mode) (addressBits : UInt32) (pte : Pte) :
    (LeafSlot.ofPte mode addressBits pte).toSlot = pte.decoded mode addressBits leafLevel := by
  unfold LeafSlot.ofPte LeafSlot.toSlot Pte.decoded
  cases mode.accessFault pte addressBits <;> cases pte.pageFaultAt leafLevel <;> rfl

/-! ## Facts -/

/-- What the lines say about the walks of their regions. -/
def Setting.facts (setting : Setting) : LineFacts where
  root := fun line => ∀ vpn, regionTag vpn 0 = line.tag.region →
    (setting.tree line.tag.mode).tableAt? vpn 1 = some line.ppn
  middle := fun line => ∀ vpn, regionTag vpn 1 = line.tag.region →
    (setting.tree line.tag.mode).tableAt? vpn leafLevel = some line.ppn
  sector := fun line => ∀ vpn, sectorTag vpn = line.tag.region →
    ∃ pte, (setting.tree line.tag.mode).pteAt? vpn leafLevel = some pte ∧
      line.slots.get (sectorIndex vpn) =
        LeafSlot.ofPte line.tag.mode setting.addressBits pte
  superpage := fun line => line.level < leafLevel ∧
    ∀ vpn, regionTag vpn line.level = line.tag.region →
      ∃ pte ending, (setting.tree line.tag.mode).pteAt? vpn line.level = some pte ∧
        (setting.tree line.tag.mode).ending? pte line.level = some ending ∧
        line.toSlot = pte.slot ending

section Refills

variable {setting : Setting} {refill : Refill}

/-- What a walker has read on its way brings true lines. -/
theorem Setting.brings
    {params : Params} (bits : params.addressBits = setting.addressBits)
    (found : (setting.tree refill.request.mode).pteAt? refill.request.vpn refill.level =
      some refill.selected)
    (level : refill.level ≤ leafLevel)
    (holds : refill.level = leafLevel →
      setting.Holds refill.request.mode refill.request.vpn refill.block)
    (registers : Registers) : refill.Brings setting.facts params registers := by
  have outside := setting.tree_outside refill.request.mode refill.selected
  rw [← bits] at outside
  have pointer
      (inside : refill.request.mode.accessFault refill.selected params.addressBits = false)
      (points : refill.selected.isLeaf = false)
      (sound : refill.selected.pageFaultAt refill.level = false) :
      (setting.tree refill.request.mode).ending? refill.selected refill.level = none :=
    TableTree.ending_eq_none_iff.2 ⟨outside.trans inside, sound, points⟩
  refine ⟨?_, ?_, ?_, ?_⟩
  · intro inside root points sound vpn same
    have reached := TableTree.tableAt_succ found (pointer inside points sound)
    rw [root] at reached
    exact (TableTree.tableAt_succ_eq_of_regionTag (by decide) same).trans reached
  · intro inside middle points sound code vpn same
    have reached := TableTree.tableAt_succ found (pointer inside points sound)
    rw [middle] at reached
    exact (TableTree.tableAt_succ_eq_of_regionTag (by decide) same).trans reached
  · intro _ leaf code vpn same
    refine ⟨⟨leafAt refill.block vpn⟩, holds leaf vpn same, ?_⟩
    rw [← bits]
    change (refill.block.map _)[sectorIndex vpn] = _
    simp [leafAt, LineTag.ofRefill]
  · intro inside upper ends
    refine ⟨upper, fun vpn same => ?_⟩
    have here : (setting.tree refill.request.mode).pteAt? vpn refill.level =
        some refill.selected :=
      (TableTree.pteAt_eq_of_regionTag level same).trans found
    cases ended : (setting.tree refill.request.mode).ending? refill.selected refill.level with
    | none =>
        obtain ⟨_, sound, points⟩ := TableTree.ending_eq_none_iff.1 ended
        rw [sound, points] at ends
        rcases ends with leaf | fault
        · cases leaf
        · cases fault
    | some ending =>
        refine ⟨refill.selected, ending, here, ended, ?_⟩
        rw [← decoded_eq_slot ended, ← bits]
        simp [SuperpageLine.toSlot, Pte.decoded, inside]

end Refills

/-! ## Answers -/

section Answers

variable {setting : Setting} {checked : CheckedLookup}

/-- A hit shows the entry at which the walk ended. -/
theorem CheckedLookup.Backed.slot
    (backed : checked.Backed setting.facts) (hit : checked.isHit = true)
    (registers : Registers) :
    ∃ level pte ending, level ≤ leafLevel ∧
      (setting.tree checked.lookup.request.mode).pteAt? checked.lookup.request.vpn level =
        some pte ∧
      (setting.tree checked.lookup.request.mode).ending? pte level = some ending ∧
      (Cache.answerStageOne registers checked).level = level ∧
      (Cache.answerStageOne registers checked).selected = pte.slot ending := by
  unfold CheckedLookup.isHit at hit
  unfold Cache.answerStageOne
  cases sector : checked.sector with
  | some line =>
      obtain ⟨fact, mode, region⟩ := backed.sector line sector
      obtain ⟨pte, found, slot⟩ := fact checked.lookup.request.vpn region.symm
      rw [mode] at found slot
      cases ends :
          (setting.tree checked.lookup.request.mode).ending? pte leafLevel with
      | none => exact absurd ends (TableTree.ending_leafLevel pte)
      | some ending =>
          refine ⟨leafLevel, pte, ending, Nat.le_refl _, found, ends, rfl, ?_⟩
          rw [← decoded_eq_slot ends, ← toSlot_ofPte_decoded, ← slot]
          change (line.slots.map LeafSlot.toSlot)[sectorIndex checked.lookup.request.vpn] = _
          exact Vector.getElem_map ..
  | none =>
      cases superpage : checked.superpage with
      | none =>
          rw [sector, superpage] at hit
          cases hit
      | some line =>
          obtain ⟨⟨upper, fact⟩, mode, region⟩ := backed.superpage line superpage
          obtain ⟨pte, ending, found, ends, slot⟩ :=
            fact checked.lookup.request.vpn region.symm
          rw [mode] at found ends
          refine ⟨line.level, pte, ending, Nat.le_of_lt upper, found, ends, rfl, ?_⟩
          rw [← slot]
          simp [StageOneResult.selected]

/-- A sector says that the walk of its page numbers comes down to the last level, and a
superpage says that it ends above. So no page number has both. -/
theorem Backed.sector_or_superpage
    {request : Request} {root middle : Option PointerLine} {sector : Option SectorLine}
    {superpage : Option SuperpageLine}
    (backed : Backed setting.facts request root middle sector superpage) :
    sector = none ∨ superpage = none := by
  cases leaves : sector with
  | none => exact .inl rfl
  | some low =>
      cases ends : superpage with
      | none => exact .inr rfl
      | some high =>
          exfalso
          obtain ⟨leaf, leafMode, leafRegion⟩ := backed.sector low leaves
          obtain ⟨⟨upper, fact⟩, mode, region⟩ := backed.superpage high ends
          obtain ⟨lowPte, lowFound, _⟩ := leaf request.vpn leafRegion.symm
          obtain ⟨highPte, highEnding, highFound, highEnds, _⟩ := fact request.vpn region.symm
          rw [leafMode] at lowFound
          rw [mode] at highFound highEnds
          have stops : (setting.tree request.mode).ending? lowPte leafLevel ≠ none :=
            TableTree.ending_leafLevel lowPte
          obtain ⟨lowEnding, lowEnds⟩ := Option.ne_none_iff_exists'.1 stops
          have bottom := (Setting.walk_of_pte (Nat.le_refl _) lowFound lowEnds).2.1
          have above := (Setting.walk_of_pte (Nat.le_of_lt upper) highFound highEnds).2.1
          omega

/-- The second-stage result of a hit equals the walk. -/
theorem CheckedLookup.Backed.stageTwo
    (backed : checked.Backed setting.facts) (hit : checked.isHit = true)
    (registers : Registers) (second : checked.lookup.request.mode = .stageTwo) :
    (Cache.stageTwoOf checked.lookup.request
        (Cache.answerStageOne registers checked)).Equals
      (setting.guestWalk checked.lookup.request.vpn) := by
  obtain ⟨level, pte, ending, bound, found, ends, same, slot⟩ := backed.slot hit registers
  obtain ⟨ended, here, entry⟩ := Setting.walk_of_pte bound found ends
  have walked : setting.guestWalk checked.lookup.request.vpn =
      setting.walk checked.lookup.request.mode checked.lookup.request.vpn := by
    rw [second]
    rfl
  rw [walked]
  unfold Cache.stageTwoOf
  rw [slot]
  refine ⟨same.trans here.symm, ?_, ?_, ?_, ?_, ?_⟩
  · rw [ended]
    rfl
  · rw [ended]
    rfl
  · rw [ended]
    rfl
  · rw [entry]
    rfl
  · rw [entry]
    rfl

end Answers

/-- Where an answer of the cache says that a walk can resume, it has come. -/
structure Setting.Hints (setting : Setting) (mode : Mode) (vpn : Word) (hint : WalkHint) :
    Prop where
  middle : hint.middle = true →
    (setting.tree mode).tableAt? vpn leafLevel = some hint.ppn
  root : hint.middle = false → hint.root = true →
    (setting.tree mode).tableAt? vpn 1 = some hint.ppn

section CacheAnswers

variable {setting : Setting} {answer : CacheAnswer}

theorem CacheAnswer.Backed.hints (backed : answer.Backed setting.facts) :
    setting.Hints answer.lookup.request.mode answer.lookup.request.vpn answer.hint := by
  obtain ⟨checked, backed, registers, bypassed, same⟩ := backed
  subst same
  unfold Cache.answerOf
  constructor
  · intro middle
    obtain ⟨line, hit⟩ := Option.isSome_iff_exists.1 middle
    obtain ⟨fact, mode, region⟩ := backed.middle line hit
    have reached := fact checked.lookup.request.vpn region.symm
    rw [mode] at reached
    simp only [hit]
    exact reached
  · intro missed root
    have noMiddle : checked.middle = none := by
      cases found : checked.middle with
      | none => rfl
      | some line =>
          rw [found] at missed
          cases missed
    obtain ⟨line, hit⟩ := Option.isSome_iff_exists.1 root
    obtain ⟨fact, mode, region⟩ := backed.root line hit
    have reached := fact checked.lookup.request.vpn region.symm
    rw [mode] at reached
    simp only [noMiddle, hit]
    exact reached

/-- A hit in the cache shows the walk of its lookup, which comes to its end. -/
theorem CacheAnswer.Backed.stageOne
    (backed : answer.Backed setting.facts) (hit : answer.hit = true) :
    (setting.walk answer.lookup.request.mode answer.lookup.request.vpn).ShownBy
        answer.stageOne.level answer.stageOne.selected ∧
      (setting.walk answer.lookup.request.mode answer.lookup.request.vpn).ending ≠
        .unmapped := by
  obtain ⟨checked, backed, registers, bypassed, same⟩ := backed
  subst same
  have found : checked.isHit = true := hit
  obtain ⟨level, pte, ending, bound, reached, ends, here, slot⟩ := backed.slot found registers
  unfold Cache.answerOf
  dsimp only
  rw [here, slot]
  refine ⟨shownBy_slot bound reached ends fun _ => rfl, ?_⟩
  rw [(Setting.walk_of_pte bound reached ends).1]
  exact TableTree.ne_unmapped_of_ending ends

/-- A hit in the cache answers its guest page. -/
theorem CacheAnswer.Backed.guestPage
    (backed : answer.Backed setting.facts) (hit : answer.hit = true)
    (second : answer.lookup.request.mode = .stageTwo) :
    answer.stageTwo.Equals (setting.guestWalk answer.lookup.request.vpn) := by
  obtain ⟨checked, backed, registers, bypassed, same⟩ := backed
  subst same
  have found : checked.isHit = true := hit
  have equals := backed.stageTwo found registers second
  unfold Cache.answerOf
  simp only [found, if_true]
  exact equals

end CacheAnswers

end PageWalk
