import PageWalk.Result
import PageWalk.Proofs.TableWalk

/-!
# Answers and walks

What it means that a result shows how a plain walk ended, and that a response answers
its lookup. The results that are made of the entry at which a walk ended show it.
-/

namespace PageWalk

/-! ## Results that show a walk -/

/-- A slot at a level shows how a walk ended, and on success the leaf that it found. -/
structure WalkEnd.ShownBy (walkEnd : WalkEnd) (level : Nat) (slot : Slot) : Prop where
  level : level = walkEnd.level
  valid : slot.valid = (walkEnd.ending == .leaf)
  pageFault : slot.pageFault = (walkEnd.ending == .pageFault)
  accessFault : slot.accessFault = (walkEnd.ending == .accessFault)
  ppn : walkEnd.ending = .leaf → slot.ppn = walkEnd.pte.ppn
  permissions : walkEnd.ending = .leaf → slot.permissions = walkEnd.pte.permissions

/-- A second-stage result equals the walk of its guest page: it shows how the walk ended
and the entry that it read last. -/
structure StageTwoResult.Equals (result : StageTwoResult) (walkEnd : WalkEnd) : Prop where
  level : result.level = walkEnd.level
  valid : result.valid = (walkEnd.ending == .leaf)
  pageFault : result.pageFault = (walkEnd.ending == .pageFault)
  accessFault : result.accessFault = (walkEnd.ending == .accessFault)
  ppn : result.ppn = walkEnd.pte.ppn
  permissions : result.permissions = walkEnd.pte.permissions

/-- A response answers its lookup. A lookup of the first stage shows its walk. Under
nested translation the second stage is shown where the walk of the first one stops for
want of a table page, and, unless the cache answers, for the page of the leaf. -/
structure Setting.Answers (setting : Setting) (response : Response) : Prop where
  first : response.request.mode ≠ .stageTwo →
    (setting.walk response.request.mode response.request.vpn).ShownBy
      response.stageOne.level response.stageOne.selected
  second : response.request.mode = .stageTwo →
    ∃ result, response.stageTwo = some result ∧
      result.Equals (setting.guestWalk response.request.vpn)
  unmapped : response.request.mode = .nested →
    (setting.walk .nested response.request.vpn).ending = .unmapped →
      (∃ result, response.stageTwo = some result ∧
        result.Equals
            (setting.guestWalk (setting.walk .nested response.request.vpn).table) ∧
          result.fault = true) ∧
        ∀ slot ∈ response.stageOne.slots.toList, slot.valid = false
  leaf : response.request.mode = .nested → response.fromCache = false →
    ∀ page, (setting.walk .nested response.request.vpn).page? response.request.vpn =
        some page →
      ∃ result, response.stageTwo = some result ∧ result.Equals (setting.guestWalk page)
  cached : response.request.mode ≠ .stageTwo → response.fromCache = true →
    response.stageTwo = none

/-! ## Endings -/

namespace TableTree

variable {tree : TableTree} {pte : Pte} {level : Nat}

theorem ending_eq_none_iff :
    tree.ending? pte level = none ↔
      tree.outside pte = false ∧ pte.pageFaultAt level = false ∧ pte.isLeaf = false := by
  unfold ending?
  cases tree.outside pte <;> cases pte.pageFaultAt level <;> cases pte.isLeaf <;> simp

theorem ending_of_outside (outside : tree.outside pte = true) :
    tree.ending? pte level = some .accessFault := by
  simp [ending?, outside]

theorem ending_of_pageFault
    (inside : tree.outside pte = false) (fault : pte.pageFaultAt level = true) :
    tree.ending? pte level = some .pageFault := by
  simp [ending?, inside, fault]

theorem ending_of_leaf
    (inside : tree.outside pte = false) (sound : pte.pageFaultAt level = false)
    (leaf : pte.isLeaf = true) : tree.ending? pte level = some .leaf := by
  simp [ending?, inside, sound, leaf]

theorem ending_spec {ending : WalkEnding} (ends : tree.ending? pte level = some ending) :
    (ending = .accessFault ∧ tree.outside pte = true) ∨
      (ending = .pageFault ∧ tree.outside pte = false ∧ pte.pageFaultAt level = true) ∨
      (ending = .leaf ∧ tree.outside pte = false ∧ pte.pageFaultAt level = false ∧
        pte.isLeaf = true) := by
  unfold ending? at ends
  cases outside : tree.outside pte <;> cases fault : pte.pageFaultAt level <;>
    cases leaf : pte.isLeaf <;> simp [outside, fault, leaf] at ends <;> simp [← ends]

/-- No entry ends a walk as a missing table page does. -/
theorem ne_unmapped_of_ending
    {ending : WalkEnding} (ends : tree.ending? pte level = some ending) :
    ending ≠ .unmapped := by
  rcases ending_spec ends with ⟨rfl, _⟩ | ⟨rfl, _⟩ | ⟨rfl, _⟩ <;> exact WalkEnding.noConfusion

/-- A walk that is read from its own table pages is never stopped by a missing one. -/
theorem walkFrom_ending
    (hosted : ∀ table, tree.page? table = some table) (vpn : Word) (below level : Nat)
    (table : Word) : (tree.walkFrom vpn below level table).ending ≠ .unmapped := by
  induction below generalizing level table with
  | zero =>
      unfold walkFrom
      cases ends : tree.ending? (tree.entry table vpn level) level with
      | some ending =>
          simp only [hosted, ends]
          exact ne_unmapped_of_ending ends
      | none =>
          simp only [hosted, ends]
          exact WalkEnding.noConfusion
  | succ below inductionHypothesis =>
      unfold walkFrom
      cases ends : tree.ending? (tree.entry table vpn level) level with
      | some ending =>
          simp only [hosted, ends]
          exact ne_unmapped_of_ending ends
      | none =>
          simp only [hosted, ends]
          exact inductionHypothesis _ _

end TableTree

theorem Pte.valid_of_isLeaf {pte : Pte} (leaf : pte.isLeaf = true) : pte.valid = true := by
  unfold Pte.isLeaf at leaf
  exact (Bool.and_eq_true_iff.1 leaf).1

namespace Setting

variable {setting : Setting}

/-- A walk that reads an entry which is no pointer ends there. -/
theorem walk_of_pte
    {mode : Mode} {vpn : Word} {level : Nat} {pte : Pte} {ending : WalkEnding}
    (bound : level ≤ leafLevel) (found : (setting.tree mode).pteAt? vpn level = some pte)
    (ends : (setting.tree mode).ending? pte level = some ending) :
    (setting.walk mode vpn).ending = ending ∧ (setting.walk mode vpn).level = level ∧
      (setting.walk mode vpn).pte = pte := by
  obtain ⟨table, same⟩ := TableTree.walk_of_ending bound found ends
  unfold walk
  rw [same]
  exact ⟨rfl, rfl, rfl⟩

/-- The walk of the second stage always finds the page of its tables. -/
theorem guestWalk_ending (setting : Setting) (gvpn : Word) :
    (setting.guestWalk gvpn).ending ≠ .unmapped := by
  unfold guestWalk TableTree.walk
  split
  · exact TableTree.walkFrom_ending (fun _ => rfl) gvpn _ _ _
  · simp

end Setting

/-! ## Results of one entry -/

section Results

variable {setting : Setting} {vpn : Word} {level : Nat} {pte : Pte} {ending : WalkEnding}

/-- A result of one entry shows it in every slot. -/
theorem StageOneResult.selected_ofPte
    (vpn : Word) (pte : Pte) (level : Nat) (pageFault accessFault : Bool)
    (asid vmid : UInt16) :
    (ofPte vpn pte level pageFault accessFault asid vmid).selected =
      slotOfPte pte pageFault accessFault := by
  simp [ofPte, selected]

/-- A result of a block shows the leaf that was asked for. -/
theorem StageOneResult.selected_ofBlock
    (vpn : Word) (block : Block) (denied : Bool) (mode : Mode) (addressBits : UInt32)
    (asid vmid : UInt16) :
    (ofBlock vpn block denied mode addressBits asid vmid).selected =
      slotOfLeaf mode addressBits denied ⟨leafAt block vpn⟩ := by
  simp [ofBlock, selected, leafAt]

/-- The second-stage result of the entry at which a walk ended. -/
theorem StageTwoResult.equals_of_pte
    (bound : level ≤ leafLevel)
    (found : setting.guestTree.pteAt? vpn level = some pte)
    (ends : setting.guestTree.ending? pte level = some ending) (vmid : UInt16) :
    (StageTwoResult.ofPte vpn pte level (ending == .pageFault) (ending == .accessFault)
      vmid).Equals (setting.guestWalk vpn) := by
  have reached : (setting.tree .stageTwo).pteAt? vpn level = some pte := found
  obtain ⟨same, here, entry⟩ := Setting.walk_of_pte bound reached ends
  have walked : setting.guestWalk vpn = setting.walk .stageTwo vpn := rfl
  rw [walked]
  refine ⟨here.symm, ?_, ?_, ?_, ?_, ?_⟩
  · rw [same]
    rcases TableTree.ending_spec ends with ⟨rfl, _⟩ | ⟨rfl, _⟩ | ⟨rfl, _, _, leaf⟩
    · rfl
    · rfl
    · exact Pte.valid_of_isLeaf leaf
  · rw [same]
    rfl
  · rw [same]
    rfl
  · rw [entry]
    rfl
  · rw [entry]
    rfl

/-- A slot that shows how a walk ended, and the entry `shown`. -/
def Pte.slot (shown : Pte) (ending : WalkEnding) : Slot where
  ppn := shown.ppn
  permissions := shown.permissions
  valid := ending == .leaf
  pageFault := ending == .pageFault
  accessFault := ending == .accessFault

/-- A slot shows a walk if it shows the leaf that the walk found. -/
theorem shownBy_slot
    {mode : Mode} {shown : Pte} (bound : level ≤ leafLevel)
    (found : (setting.tree mode).pteAt? vpn level = some pte)
    (ends : (setting.tree mode).ending? pte level = some ending)
    (same : ending = .leaf → shown = pte) :
    (setting.walk mode vpn).ShownBy level (shown.slot ending) := by
  obtain ⟨ended, here, entry⟩ := Setting.walk_of_pte bound found ends
  refine ⟨here.symm, ?_, ?_, ?_, ?_, ?_⟩
  · rw [ended]
    rfl
  · rw [ended]
    rfl
  · rw [ended]
    rfl
  · intro leaf
    rw [ended] at leaf
    rw [entry, ← same leaf]
    rfl
  · intro leaf
    rw [ended] at leaf
    rw [entry, ← same leaf]
    rfl

/-- The slot that a walker makes of the entry at which its walk ended. -/
theorem slotOfPte_eq
    {mode : Mode} (ends : (setting.tree mode).ending? pte level = some ending)
    {shown : Pte} (same : ending = .leaf → shown = pte) :
    StageOneResult.slotOfPte shown (ending == .pageFault) (ending == .accessFault) =
      shown.slot ending := by
  rcases TableTree.ending_spec ends with ⟨rfl, _⟩ | ⟨rfl, _⟩ | ⟨rfl, _, _, leaf⟩
  · rfl
  · rfl
  · have valid : shown.valid = true := by
      rw [same rfl]
      exact Pte.valid_of_isLeaf leaf
    unfold StageOneResult.slotOfPte Pte.slot
    rw [valid]
    rfl

end Results

/-! ## Decoded entries -/

/-- What an entry says about the pages of its region, found at a level under a mode. -/
def Pte.decoded (mode : Mode) (addressBits : UInt32) (level : Nat) (pte : Pte) : Slot where
  ppn := pte.ppn
  permissions := pte.permissions
  valid := !mode.accessFault pte addressBits && !pte.pageFaultAt level
  pageFault := !mode.accessFault pte addressBits && pte.pageFaultAt level
  accessFault := mode.accessFault pte addressBits

section Decoded

variable {setting : Setting} {mode : Mode} {level : Nat} {pte : Pte} {ending : WalkEnding}

/-- An entry at which walks end is decoded to the slot that shows how they end. -/
theorem decoded_eq_slot (ends : (setting.tree mode).ending? pte level = some ending) :
    pte.decoded mode setting.addressBits level = pte.slot ending := by
  have outside := setting.tree_outside mode pte
  unfold Pte.decoded Pte.slot
  rcases TableTree.ending_spec ends with
    ⟨rfl, out⟩ | ⟨rfl, inside, fault⟩ | ⟨rfl, inside, sound, _⟩
  · rw [out] at outside
    simp [← outside]
  · rw [inside] at outside
    simp [← outside, fault]
  · rw [inside] at outside
    simp [← outside, sound]

/-- The slot that the leaf walker makes of a leaf of a block. -/
theorem slotOfLeaf_eq_decoded (mode : Mode) (addressBits : UInt32) (pte : Pte) :
    StageOneResult.slotOfLeaf mode addressBits false pte =
      pte.decoded mode addressBits leafLevel := by
  simp only [StageOneResult.slotOfLeaf, Pte.decoded, Bool.false_or]
  cases mode.accessFault pte addressBits <;> cases pte.pageFaultAt leafLevel <;> rfl

theorem slotOfLeaf_eq (ends : (setting.tree mode).ending? pte leafLevel = some ending) :
    StageOneResult.slotOfLeaf mode setting.addressBits false pte = pte.slot ending :=
  (slotOfLeaf_eq_decoded mode setting.addressBits pte).trans (decoded_eq_slot ends)

end Decoded

/-! ## Blocks of leaves -/

/-- A block holds the leaves of a sector. -/
def Setting.Holds (setting : Setting) (mode : Mode) (vpn : Word) (block : Block) : Prop :=
  ∀ other, sectorTag other = sectorTag vpn →
    (setting.tree mode).pteAt? other leafLevel = some ⟨leafAt block other⟩

theorem Setting.Holds.of_sectorTag
    {setting : Setting} {mode : Mode} {vpn other : Word} {block : Block}
    (holds : setting.Holds mode vpn block) (same : sectorTag other = sectorTag vpn) :
    setting.Holds mode other block :=
  fun third shares => holds third (shares.trans same)

/-- The block read at the entry of a page number holds the leaves of its sector. -/
theorem Setting.holds_of_read
    {setting : Setting} {mode : Mode} {vpn table host : Word} {memory : Memory}
    (words : setting.word = memory.readWord)
    (reached : (setting.tree mode).tableAt? vpn leafLevel = some table)
    (hosted : (setting.tree mode).page? table = some host) :
    setting.Holds mode vpn (memory.readBlock (entryAddress host (vpnIndex vpn 0))) := by
  intro other same
  have there : (setting.tree mode).tableAt? other leafLevel = some table :=
    (TableTree.tableAt_leafLevel_eq_of_sectorTag same).trans reached
  rw [TableTree.pteAt_of_tableAt there hosted, leafAt_readBlock_of_sectorTag memory host same]
  unfold TableTree.entry
  rw [setting.tree_word, words, tableIndex_leafLevel]

end PageWalk
