import PageWalk.Memory
import PageWalk.Registers
import PageWalk.Proofs.Geometry

/-!
# Walks through table trees

The plain walk of a page number: from the root of a tree of page tables down, one
entry for each level, until an entry ends it. No part of the walkers is used here,
so this is what their answers are measured against.

Under nested translation a table page is a guest page. The page that it is read from
is found by a plain walk of the second stage.
-/

namespace PageWalk

inductive WalkEnding
  | leaf
  | pageFault
  | accessFault
  /-- The table page that the walk has come to has no translation. -/
  | unmapped
deriving DecidableEq, Repr

/-- The end of a walk: the table page that it has come to, and the entry that it has
read there. -/
structure WalkEnd where
  ending : WalkEnding
  level : Nat
  table : Word
  pte : Pte := {}
deriving DecidableEq, Repr

/-- The 4 KiB page of the page number that was walked, if the walk found a leaf. -/
def WalkEnd.page? (walkEnd : WalkEnd) (vpn : Word) : Option Word :=
  match walkEnd.ending with
  | .leaf => some (mergePage walkEnd.pte.ppn vpn walkEnd.level)
  | _ => none

structure TableTree where
  root : Word
  /-- The root index takes 11 bits, and wider page numbers are not in the tree. -/
  guest : Bool
  /-- The page that a table page is read from. -/
  page? : Word → Option Word
  /-- An entry names a page that cannot exist. -/
  outside : Pte → Bool
  word : Word → Word

namespace TableTree

variable (tree : TableTree)

/-! ## The walk -/

/-- Whether a page number has an entry in the root table. -/
def covers (vpn : Word) : Bool :=
  !tree.guest || vpn >>> guestVpnBits.toUInt64 == 0

/-- The entry that a walk reads at a level from the page of its table. -/
def entry (host vpn : Word) (level : Nat) : Pte :=
  ⟨tree.word (entryAddress host (tableIndex tree.guest vpn level))⟩

/-- How finding an entry at a level ends a walk; a pointer does not. -/
def ending? (pte : Pte) (level : Nat) : Option WalkEnding :=
  if tree.outside pte then some .accessFault
  else if pte.pageFaultAt level then some .pageFault
  else if pte.isLeaf then some .leaf
  else none

/-- The walk from a table of a level, with `below` levels below it. -/
def walkFrom (vpn : Word) : (below level : Nat) → (table : Word) → WalkEnd
  | below, level, table =>
      match tree.page? table with
      | none => ⟨.unmapped, level, table, {}⟩
      | some host =>
          let pte := tree.entry host vpn level
          match tree.ending? pte level, below with
          | some ending, _ => ⟨ending, level, table, pte⟩
          | none, 0 => ⟨.pageFault, level, table, pte⟩
          | none, below + 1 => walkFrom vpn below (level + 1) pte.ppn

/-- The walk of a page number. A page number that is too wide is a page fault at the
root. -/
def walk (vpn : Word) : WalkEnd :=
  if tree.covers vpn then
    tree.walkFrom vpn leafLevel 0 tree.root
  else
    ⟨.pageFault, 0, tree.root, {}⟩

/-! ## Where a walk comes along -/

/-- The table page that the walk of a page number comes to at a level. -/
def tableAt? (vpn : Word) : (level : Nat) → Option Word
  | 0 => if tree.covers vpn then some tree.root else none
  | level + 1 =>
      (tableAt? vpn level).bind fun table =>
        (tree.page? table).bind fun host =>
          let pte := tree.entry host vpn level
          if (tree.ending? pte level).isNone then some pte.ppn else none

/-- The entry that the walk of a page number reads at a level. -/
def pteAt? (vpn : Word) (level : Nat) : Option Pte :=
  (tree.tableAt? vpn level).bind fun table =>
    (tree.page? table).map fun host => tree.entry host vpn level

variable {tree}

theorem covers_of_tableAt
    {vpn table : Word} {level : Nat}
    (reached : tree.tableAt? vpn level = some table) :
    tree.covers vpn = true := by
  induction level generalizing table with
  | zero =>
      by_cases covered : tree.covers vpn = true
      · exact covered
      · simp [tableAt?, covered] at reached
  | succ level inductionHypothesis =>
      obtain ⟨upper, upperReached, _⟩ := Option.bind_eq_some_iff.1 reached
      exact inductionHypothesis upperReached

theorem tableAt_zero
    {vpn : Word} (covered : tree.covers vpn = true) :
    tree.tableAt? vpn 0 = some tree.root := by
  simp [tableAt?, covered]

theorem pteAt_of_tableAt
    {vpn table host : Word} {level : Nat}
    (reached : tree.tableAt? vpn level = some table)
    (hosted : tree.page? table = some host) :
    tree.pteAt? vpn level = some (tree.entry host vpn level) := by
  simp [pteAt?, reached, hosted]

/-- A pointer leads to the table that it names. -/
theorem tableAt_succ
    {vpn : Word} {level : Nat} {pte : Pte}
    (found : tree.pteAt? vpn level = some pte)
    (pointer : tree.ending? pte level = none) :
    tree.tableAt? vpn (level + 1) = some pte.ppn := by
  obtain ⟨table, reached, hosted⟩ := Option.bind_eq_some_iff.1 found
  obtain ⟨host, hostFound, rfl⟩ := Option.map_eq_some_iff.1 hosted
  simp [tableAt?, reached, hostFound, pointer]

/-- A pointer at the leaf level is a page fault. -/
theorem ending_leafLevel (pte : Pte) : tree.ending? pte leafLevel ≠ none := by
  unfold ending?
  by_cases outside : tree.outside pte = true
  · simp [outside]
  · by_cases leaf : pte.isLeaf = true
    · by_cases fault : pte.pageFaultAt leafLevel = true <;> simp [outside, leaf, fault]
    · have fault : pte.pageFaultAt leafLevel = true := by
        simp [Pte.pageFaultAt, leaf]
      simp [outside, fault]

/-! ## The walk from where it has come -/

theorem walk_eq_walkFrom
    {vpn table : Word} {level : Nat} (bound : level ≤ leafLevel)
    (reached : tree.tableAt? vpn level = some table) :
    tree.walk vpn = tree.walkFrom vpn (leafLevel - level) level table := by
  induction level generalizing table with
  | zero =>
      have covered := covers_of_tableAt reached
      rw [tableAt_zero covered, Option.some.injEq] at reached
      simp [walk, covered, reached]
  | succ level inductionHypothesis =>
      obtain ⟨upper, upperReached, hosted⟩ := Option.bind_eq_some_iff.1 reached
      obtain ⟨host, hostFound, pointed⟩ := Option.bind_eq_some_iff.1 hosted
      rw [inductionHypothesis (Nat.le_of_succ_le bound) upperReached]
      have below : leafLevel - level = leafLevel - (level + 1) + 1 := by omega
      cases pointer : tree.ending? (tree.entry host vpn level) level with
      | none =>
          simp only [pointer, Option.isNone_none, if_true, Option.some.injEq] at pointed
          rw [below, walkFrom, ← pointed]
          simp only [hostFound, pointer]
      | some ending =>
          simp [pointer] at pointed

/-- A walk ends where the page of its table is missing. -/
theorem walk_of_unmapped
    {vpn table : Word} {level : Nat} (bound : level ≤ leafLevel)
    (reached : tree.tableAt? vpn level = some table)
    (missing : tree.page? table = none) :
    tree.walk vpn = ⟨.unmapped, level, table, {}⟩ := by
  rw [walk_eq_walkFrom bound reached, walkFrom]
  simp only [missing]

/-- A walk ends at the first entry that is not a pointer. -/
theorem walk_of_ending
    {vpn : Word} {level : Nat} {pte : Pte} {ending : WalkEnding} (bound : level ≤ leafLevel)
    (found : tree.pteAt? vpn level = some pte)
    (ends : tree.ending? pte level = some ending) :
    ∃ table, tree.walk vpn = ⟨ending, level, table, pte⟩ := by
  obtain ⟨table, reached, hosted⟩ := Option.bind_eq_some_iff.1 found
  obtain ⟨host, hostFound, rfl⟩ := Option.map_eq_some_iff.1 hosted
  refine ⟨table, ?_⟩
  rw [walk_eq_walkFrom bound reached, walkFrom]
  simp only [hostFound, ends]

/-- A page number that is too wide is a page fault at the root. -/
theorem walk_of_wide
    {vpn : Word} (wide : tree.covers vpn = false) :
    tree.walk vpn = ⟨.pageFault, 0, tree.root, {}⟩ := by
  simp [walk, wide]

/-! ## Page numbers of one region -/

theorem entry_eq_of_regionTag
    (host : Word) {vpn other : Word} {level : Nat} (bound : level ≤ leafLevel)
    (same : regionTag vpn level = regionTag other level) :
    tree.entry host vpn level = tree.entry host other level := by
  simp only [entry, tableIndex_eq_of_regionTag tree.guest bound same]

/-- Page numbers of one region walk to the same table. -/
theorem tableAt_eq_of_regionTag
    {vpn other : Word} {level : Nat} (bound : level ≤ leafLevel)
    (same : regionTag vpn level = regionTag other level) :
    tree.tableAt? vpn level = tree.tableAt? other level := by
  induction level with
  | zero =>
      have covered : tree.covers vpn = tree.covers other := by
        simp only [covers, guestWidth_eq_of_regionTag same]
      rw [tableAt?, tableAt?, covered]
  | succ level inductionHypothesis =>
      have upperSame := regionTag_eq_of_succ bound same
      have upperBound := Nat.le_of_succ_le bound
      simp only [tableAt?, inductionHypothesis upperBound upperSame,
        entry_eq_of_regionTag _ upperBound upperSame]

/-- Page numbers of one region read the same entry. -/
theorem pteAt_eq_of_regionTag
    {vpn other : Word} {level : Nat} (bound : level ≤ leafLevel)
    (same : regionTag vpn level = regionTag other level) :
    tree.pteAt? vpn level = tree.pteAt? other level := by
  simp only [pteAt?, tableAt_eq_of_regionTag bound same, entry_eq_of_regionTag _ bound same]

/-- Page numbers of one region are led to the same table below it. -/
theorem tableAt_succ_eq_of_regionTag
    {vpn other : Word} {level : Nat} (bound : level ≤ leafLevel)
    (same : regionTag vpn level = regionTag other level) :
    tree.tableAt? vpn (level + 1) = tree.tableAt? other (level + 1) := by
  simp only [tableAt?, tableAt_eq_of_regionTag bound same, entry_eq_of_regionTag _ bound same]

/-- Page numbers of one sector walk to the same leaf table. -/
theorem tableAt_leafLevel_eq_of_sectorTag
    {vpn other : Word} (same : sectorTag vpn = sectorTag other) :
    tree.tableAt? vpn leafLevel = tree.tableAt? other leafLevel :=
  tableAt_succ_eq_of_regionTag (by decide) (regionTag_one_eq_of_sectorTag same)

end TableTree

/-! ## The trees of the registers -/

/-- What decides every translation: the registers, the words of the memory and the
width of its addresses. -/
structure Setting where
  addressBits : UInt32
  registers : Registers
  word : Word → Word

namespace Setting

/-- The tree of the second stage, read from the physical address space. -/
def guestTree (setting : Setting) : TableTree where
  root := setting.registers.hgatp.ppn
  guest := true
  page? := some
  outside := fun pte => pte.beyond setting.addressBits
  word := setting.word

/-- The walk of a guest page through the second stage. -/
def guestWalk (setting : Setting) (gvpn : Word) : WalkEnd :=
  setting.guestTree.walk gvpn

/-- The tree of the first stage under a mode. Under nested translation its table
pages are guest pages. -/
def firstTree (setting : Setting) (mode : Mode) : TableTree where
  root := (setting.registers.stageOneRoot mode).ppn
  guest := false
  page? := fun table =>
    if mode = .nested then (setting.guestWalk table).page? table else some table
  outside := fun pte => mode.accessFault pte setting.addressBits
  word := setting.word

/-- The tree that lookups of a mode are walked through. -/
def tree (setting : Setting) (mode : Mode) : TableTree :=
  if mode = .stageTwo then setting.guestTree else setting.firstTree mode

/-- The walk of a page number under a mode. -/
def walk (setting : Setting) (mode : Mode) (vpn : Word) : WalkEnd :=
  (setting.tree mode).walk vpn

theorem tree_stageTwo (setting : Setting) :
    setting.tree .stageTwo = setting.guestTree := rfl

theorem tree_of_ne_stageTwo
    (setting : Setting) {mode : Mode} (first : mode ≠ .stageTwo) :
    setting.tree mode = setting.firstTree mode := by
  simp [tree, first]

/-- Every tree bounds the pages of its entries by its mode. -/
theorem tree_outside (setting : Setting) (mode : Mode) (pte : Pte) :
    (setting.tree mode).outside pte = mode.accessFault pte setting.addressBits := by
  cases mode <;> rfl

theorem tree_word (setting : Setting) (mode : Mode) :
    (setting.tree mode).word = setting.word := by
  cases mode <;> rfl

/-- Only nested walks translate their table pages. -/
theorem tree_page_of_ne_nested
    (setting : Setting) {mode : Mode} (plain : mode ≠ .nested) (table : Word) :
    (setting.tree mode).page? table = some table := by
  cases mode with
  | nested => exact absurd rfl plain
  | direct | stageOne | stageTwo => rfl

theorem tree_page_nested (setting : Setting) (table : Word) :
    (setting.tree .nested).page? table = (setting.guestWalk table).page? table := rfl

end Setting

end PageWalk
