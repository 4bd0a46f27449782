import Mathlib.Logic.Function.Basic
import PageWalk.Proofs.Memory
import PageWalk.Proofs.Tables.Slots
import PageWalk.TableBuilder

/-!
# Layouts of page tables

Where the tables of all roots lie, and what their slots hold: the leaf of a mapping, a pointer
to the table below, or nothing. Tables lie on different pages, so a word that is written to a slot
is seen in that slot only.
-/

namespace PageWalk.TableBuilder

/-- The root table of a stage. -/
structure Root where
  page : Word
  guest : Bool
deriving DecidableEq, Repr

/-- A mapping under the root of an index. -/
structure Mapping where
  root : Nat
  vpn : Word
  ppn : Word
  level : Nat := leafLevel
  flags : Word := Pte.leafFlags
deriving DecidableEq, Repr

def Mapping.entry (mapping : Mapping) : Pte :=
  Pte.make mapping.ppn mapping.flags

/-- A page number lies in the region of a mapping. -/
def Mapping.Covers (mapping : Mapping) (vpn : Word) : Prop :=
  regionTag vpn mapping.level = regionTag mapping.vpn mapping.level

instance (mapping : Mapping) (vpn : Word) : Decidable (mapping.Covers vpn) :=
  inferInstanceAs (Decidable (_ = _))

/-- A table: its root, whose stage it has, its level and the page-number bits above it. -/
structure Node where
  root : Nat
  guest : Bool
  level : Nat
  tag : Word
deriving DecidableEq

/-- The table of a level on the way of a page number. -/
def nodeOf (root : Nat) (guest : Bool) (vpn : Word) (level : Nat) : Node where
  root := root
  guest := guest
  level := level
  tag := upperTag vpn level

/-- The page of every table that there is. -/
abbrev Layout := Node → Option Word

/-- A layout with one more table. -/
def Layout.add (layout : Layout) (node : Node) (table : Word) : Layout :=
  Function.update layout node (some table)

/-- The entry of a page number in a table on a page. -/
def Site.slot (site : Site) (guest : Bool) (vpn : Word) (level : Nat) (table : Word) : Word :=
  site.memory.readWord (entryAddress table (tableIndex guest vpn level))

/-- No mapping covers a page number at a level. -/
def Unmapped (mappings : List Mapping) (root : Nat) (vpn : Word) (level : Nat) : Prop :=
  ∀ mapping ∈ mappings, mapping.root = root → mapping.level = level → ¬ mapping.Covers vpn

/-- What the entry of a page number at a level has to be. -/
inductive Expected (mappings : List Mapping) (layout : Layout) (root : Nat) (guest : Bool)
    (vpn : Word) (level : Nat) : Word → Prop
  | leaf (mapping : Mapping) (member : mapping ∈ mappings) (here : mapping.root = root)
      (same : mapping.level = level) (covers : mapping.Covers vpn) :
      Expected mappings layout root guest vpn level mapping.entry.raw
  | pointer (unmapped : Unmapped mappings root vpn level) {table : Word}
      (placed : layout (nodeOf root guest vpn (level + 1)) = some table) :
      Expected mappings layout root guest vpn level (Pte.make table Pte.validBit).raw
  | nothing (unmapped : Unmapped mappings root vpn level)
      (missing : layout (nodeOf root guest vpn (level + 1)) = none) :
      Expected mappings layout root guest vpn level 0

/-- A table lies below the next free page, and in the pages that an entry can name. -/
structure InPlace (builder : TableBuilder) (roots : List Root) (node : Node) (table : Word) :
    Prop where
  root : ∃ root, roots[node.root]? = some root ∧ root.guest = node.guest
  level : node.level ≤ leafLevel
  below : table.toNat + pageCount node.guest node.level ≤ builder.nextPpn.toNat
  small : builder.nextPpn.toNat ≤ 2 ^ 44

/-- Two tables have no page in common. -/
def Apart (node other : Node) (table otherTable : Word) : Prop :=
  table.toNat + pageCount node.guest node.level ≤ otherTable.toNat ∨
    otherTable.toNat + pageCount other.guest other.level ≤ table.toNat

/-- Every root has its table, tables have no page in common, and the table above a table is
there. -/
structure Placed (roots : List Root) (builder : TableBuilder) (layout : Layout) : Prop where
  root : ∀ index root, roots[index]? = some root →
    layout (nodeOf index root.guest 0 0) = some root.page
  inPlace : ∀ node table, layout node = some table → InPlace builder roots node table
  apart : ∀ node other table otherTable, node ≠ other → layout node = some table →
    layout other = some otherTable → Apart node other table otherTable
  upper : ∀ index guest vpn level table, layout (nodeOf index guest vpn (level + 1)) = some table →
    ∃ above, layout (nodeOf index guest vpn level) = some above

/-- The tables of a site hold the mappings under the roots and nothing else. -/
structure Laid (roots : List Root) (mappings : List Mapping) (site : Site) (layout : Layout) :
    Prop where
  placed : Placed roots site.builder layout
  /-- The table of the leaf of a mapping is there. -/
  mapped : ∀ mapping ∈ mappings, ∃ guest table,
    layout (nodeOf mapping.root guest mapping.vpn mapping.level) = some table
  slots : ∀ index guest vpn level table, FitsStage guest vpn →
    layout (nodeOf index guest vpn level) = some table →
      Expected mappings layout index guest vpn level (site.slot guest vpn level table)
  /-- Words that are not zero lie in tables. -/
  inside : ∀ address, site.memory.readWord address ≠ 0 →
    ∃ node table, layout node = some table ∧ ∃ index : Word,
      index.toNat < 512 * pageCount node.guest node.level ∧ address = entryAddress table index

variable {roots : List Root} {builder : TableBuilder} {mappings : List Mapping} {site : Site}
variable {layout : Layout}

/-! ## Tables and their slots -/

theorem nodeOf_eq_of_regionTag
    (root : Nat) (guest : Bool) {vpn other : Word} {level : Nat} (bound : level ≤ leafLevel)
    (same : regionTag vpn level = regionTag other level) :
    nodeOf root guest vpn level = nodeOf root guest other level := by
  unfold nodeOf
  rw [upperTag_eq_of_regionTag bound same]

/-- A table is named by the region of its slot in the table above. -/
theorem nodeOf_succ_eq_iff
    {root other : Nat} {guest otherGuest : Bool} {vpn otherVpn : Word} {level otherLevel : Nat} :
    nodeOf root guest vpn (level + 1) = nodeOf other otherGuest otherVpn (otherLevel + 1) ↔
      root = other ∧ guest = otherGuest ∧ level = otherLevel ∧
        regionTag vpn level = regionTag otherVpn level := by
  simp only [nodeOf, upperTag, Node.mk.injEq, Nat.add_right_cancel_iff]
  constructor
  · rintro ⟨roots, guests, levels, tags⟩
    subst levels
    exact ⟨roots, guests, rfl, tags⟩
  · rintro ⟨roots, guests, levels, tags⟩
    subst levels
    exact ⟨roots, guests, rfl, tags⟩

/-- An entry can name the page of every table. -/
theorem Placed.toNat_lt
    (placed : Placed roots builder layout) {node : Node} {table : Word}
    (here : layout node = some table) : table.toNat < 2 ^ 44 := by
  obtain ⟨_, _, below, small⟩ := placed.inPlace node table here
  have counts := pageCount_cases node.guest node.level
  omega

/-- Entries of two tables have different addresses. -/
theorem Placed.entryAddress_ne
    (placed : Placed roots builder layout) {node other : Node} {table otherTable : Word}
    (different : node ≠ other) (here : layout node = some table)
    (there : layout other = some otherTable) {index otherIndex : Word}
    (inside : index.toNat < 512 * pageCount node.guest node.level)
    (otherInside : otherIndex.toNat < 512 * pageCount other.guest other.level) :
    entryAddress table index ≠ entryAddress otherTable otherIndex := by
  intro same
  obtain ⟨_, _, below, small⟩ := placed.inPlace node table here
  obtain ⟨_, _, otherBelow, _⟩ := placed.inPlace other otherTable there
  have counts := pageCount_cases node.guest node.level
  have otherCounts := pageCount_cases other.guest other.level
  have numbers := entryNumber_eq_of_entryAddress (by omega) (by omega) (by omega) (by omega) same
  rcases placed.apart node other table otherTable different here there with before | behind
  · omega
  · omega

/-- One address is the slot of one region. -/
theorem Placed.slot_unique
    (placed : Placed roots builder layout) {root other : Nat} {guest otherGuest : Bool}
    {vpn otherVpn : Word} {level otherLevel : Nat} {table otherTable : Word}
    (fits : FitsStage guest vpn) (otherFits : FitsStage otherGuest otherVpn)
    (here : layout (nodeOf root guest vpn level) = some table)
    (there : layout (nodeOf other otherGuest otherVpn otherLevel) = some otherTable)
    (same : entryAddress table (tableIndex guest vpn level) =
      entryAddress otherTable (tableIndex otherGuest otherVpn otherLevel)) :
    root = other ∧ guest = otherGuest ∧ level = otherLevel ∧
      regionTag vpn level = regionTag otherVpn level := by
  have bound : level ≤ leafLevel := (placed.inPlace _ _ here).level
  have otherBound : otherLevel ≤ leafLevel := (placed.inPlace _ _ there).level
  by_cases nodes : nodeOf root guest vpn level = nodeOf other otherGuest otherVpn otherLevel
  · have tables : table = otherTable := by
      rw [nodes, there] at here
      exact (Option.some.inj here).symm
    injection nodes with roots guests levels tags
    subst tables guests levels
    obtain ⟨_, _, below, small⟩ := placed.inPlace _ _ here
    have counts := pageCount_cases guest level
    have inside := tableIndex_lt guest vpn bound
    have otherInside := tableIndex_lt guest otherVpn bound
    simp only [nodeOf] at below
    have numbers :=
      entryNumber_eq_of_entryAddress (by omega) (by omega) (by omega) (by omega) same
    have index := UInt64.toNat_inj.1 (Nat.add_left_cancel numbers)
    exact ⟨roots, rfl, rfl, regionTag_eq_of_tableIndex bound fits otherFits tags index⟩
  · exact absurd same (placed.entryAddress_ne nodes here there
      (tableIndex_lt guest vpn bound) (tableIndex_lt otherGuest otherVpn otherBound))

/-- All tables of a root have its stage. -/
theorem Placed.guest_eq
    (placed : Placed roots builder layout) {index : Nat} {guest otherGuest : Bool}
    {vpn other table otherTable : Word} {level otherLevel : Nat}
    (here : layout (nodeOf index guest vpn level) = some table)
    (there : layout (nodeOf index otherGuest other otherLevel) = some otherTable) :
    guest = otherGuest := by
  obtain ⟨⟨root, known, stage⟩, _, _, _⟩ := placed.inPlace _ table here
  obtain ⟨⟨otherRoot, otherKnown, otherStage⟩, _, _, _⟩ := placed.inPlace _ otherTable there
  have same : some root = some otherRoot := known.symm.trans otherKnown
  exact stage.symm.trans ((congrArg Root.guest (Option.some.inj same)).trans otherStage)

theorem Placed.root_lt
    (placed : Placed roots builder layout) {node : Node} {table : Word}
    (here : layout node = some table) : node.root < roots.length := by
  obtain ⟨⟨root, known, _⟩, _, _, _⟩ := placed.inPlace node table here
  exact (List.getElem?_eq_some_iff.1 known).1

/-- A mapping that covers a page number has its leaf in a table on the way of the page number. -/
theorem Laid.node_of_covers
    (laid : Laid roots mappings site layout) {mapping : Mapping} (member : mapping ∈ mappings)
    {vpn other table : Word} (covers : mapping.Covers vpn) {guest : Bool} {level : Nat}
    (here : layout (nodeOf mapping.root guest other level) = some table) :
    ∃ below, layout (nodeOf mapping.root guest vpn mapping.level) = some below := by
  obtain ⟨stage, below, there⟩ := laid.mapped mapping member
  have bound : mapping.level ≤ leafLevel := (laid.placed.inPlace _ _ there).level
  have guests : stage = guest := laid.placed.guest_eq there here
  rw [nodeOf_eq_of_regionTag mapping.root guest bound covers, ← guests]
  exact ⟨below, there⟩

/-! ## New tables -/

theorem Layout.add_self (layout : Layout) (node : Node) (table : Word) :
    layout.add node table node = some table :=
  Function.update_self ..

theorem Layout.add_of_ne
    (layout : Layout) {node other : Node} (different : other ≠ node) (table : Word) :
    layout.add node table other = layout other :=
  Function.update_of_ne different ..

/-- A new table leaves the others where they are. -/
theorem Layout.add_of_some
    {node other : Node} (missing : layout node = none) {otherTable : Word}
    (there : layout other = some otherTable) (table : Word) :
    layout.add node table other = some otherTable := by
  rw [Layout.add_of_ne layout ?_, there]
  rintro rfl
  rw [missing] at there
  cases there

/-- Pages are handed out behind all others, and an entry can name them. -/
structure HandsOut (builder : TableBuilder) (count : Nat) (first : Word) (after : TableBuilder) :
    Prop where
  next : after.nextPpn.toNat = first.toNat + count
  small : after.nextPpn.toNat ≤ 2 ^ 44
  behind : builder.nextPpn.toNat ≤ 2 ^ 44 → builder.nextPpn.toNat ≤ first.toNat

theorem handsOut_allocate
    (builder : TableBuilder) (guest : Bool)
    (small : ∀ page ∈ (builder.allocate guest).2.pages, page.toNat < 2 ^ 44) :
    HandsOut builder (pageCount guest 0) (builder.allocate guest).1 (builder.allocate guest).2 := by
  cases guest with
  | false =>
      have first := small builder.nextPpn (by simp [allocate])
      have next : (builder.nextPpn + 1).toNat = builder.nextPpn.toNat + 1 := by
        have one : (1 : Word).toNat = 1 := by decide
        rw [UInt64.toNat_add, one]
        omega
      exact ⟨next, Nat.le_trans (Nat.le_of_eq next) first, fun _ => Nat.le_refl _⟩
  | true =>
      let first := (builder.nextPpn + 3) &&& ~~~(3 : Word)
      have aligned : first.toNat = (builder.nextPpn.toNat + 3) % 2 ^ 64 / 4 * 4 := by
        have three : (3 : Word).toNat = 2 ^ 2 - 1 := by decide
        rw [toNat_and_not _ three, UInt64.toNat_add, three]
        rfl
      have handed (page : Word) (inside : page.toNat < 4) : (first + page).toNat < 2 ^ 44 := by
        refine small _ (List.mem_append_right _ (List.mem_map.2 ⟨page.toNat, ?_, ?_⟩))
        · exact List.mem_range.2 inside
        · rw [UInt64.ofNat_toNat]
          rfl
      have start := handed 0 (by decide)
      have last := handed 3 (by decide)
      have numbers : (3 : Word).toNat = 3 ∧ (4 : Word).toNat = 4 := by decide
      rw [UInt64.add_zero] at start
      rw [UInt64.toNat_add, numbers.1] at last
      have next : (first + 4).toNat = first.toNat + 4 := by
        rw [UInt64.toNat_add, numbers.2]
        omega
      refine ⟨next, ?_, fun bounded => ?_⟩
      · change (first + 4).toNat ≤ 2 ^ 44
        omega
      · change builder.nextPpn.toNat ≤ first.toNat
        omega

/-- A new table goes to pages behind those of all others. -/
theorem Placed.add
    (placed : Placed roots builder layout) {others : List Root} {after : TableBuilder}
    {node : Node} {first : Word} (missing : layout node = none)
    (handsOut : HandsOut builder (pageCount node.guest node.level) first after)
    (kept : roots <+: others)
    (home : ∃ root, others[node.root]? = some root ∧ root.guest = node.guest)
    (bound : node.level ≤ leafLevel)
    (root : ∀ (index : Nat) (root : Root), others[index]? = some root →
      layout.add node first (nodeOf index root.guest 0 0) = some root.page)
    (upper : ∀ index guest vpn level, nodeOf index guest vpn (level + 1) = node →
      ∃ above, layout (nodeOf index guest vpn level) = some above) :
    Placed others after (layout.add node first) := by
  obtain ⟨next, small, behind⟩ := handsOut
  have before (other : Node) (table : Word) (there : layout other = some table) :
      table.toNat + pageCount other.guest other.level ≤ first.toNat := by
    obtain ⟨_, _, below, limit⟩ := placed.inPlace other table there
    exact Nat.le_trans below (behind limit)
  constructor
  · exact root
  · intro other table there
    by_cases same : other = node
    · subst same
      rw [Layout.add_self] at there
      cases there
      exact ⟨home, bound, Nat.le_of_eq next.symm, small⟩
    · rw [Layout.add_of_ne _ same] at there
      obtain ⟨⟨root, found, guest⟩, level, _, _⟩ := placed.inPlace other table there
      have earlier := before other table there
      have known : others[other.root]? = some root := by
        obtain ⟨rest, all⟩ := kept
        rw [← all, List.getElem?_append_left (List.getElem?_eq_some_iff.1 found).1, found]
      exact ⟨⟨root, known, guest⟩, level, by omega, small⟩
  · intro one other table otherTable different here there
    by_cases same : one = node
    · subst same
      rw [Layout.add_self] at here
      rw [Layout.add_of_ne _ different.symm] at there
      cases here
      exact .inr (before other otherTable there)
    · rw [Layout.add_of_ne _ same] at here
      by_cases otherSame : other = node
      · subst otherSame
        rw [Layout.add_self] at there
        cases there
        exact .inl (before one table here)
      · rw [Layout.add_of_ne _ otherSame] at there
        exact placed.apart one other table otherTable different here there
  · intro index guest vpn level table there
    have old : ∃ above, layout (nodeOf index guest vpn level) = some above := by
      by_cases same : nodeOf index guest vpn (level + 1) = node
      · exact upper index guest vpn level same
      · rw [Layout.add_of_ne _ same] at there
        exact placed.upper index guest vpn level table there
    obtain ⟨above, found⟩ := old
    exact ⟨above, Layout.add_of_some missing found first⟩

/-- A table below another one. -/
theorem Placed.addBelow
    (placed : Placed roots builder layout) {after : TableBuilder} {root : Nat} {guest : Bool}
    {vpn table first : Word} {level : Nat}
    (here : layout (nodeOf root guest vpn level) = some table) (above : level < leafLevel)
    (missing : layout (nodeOf root guest vpn (level + 1)) = none)
    (handsOut : HandsOut builder (pageCount false 0) first after) :
    Placed roots after (layout.add (nodeOf root guest vpn (level + 1)) first) := by
  have one : pageCount guest (level + 1) = pageCount false 0 := by simp [pageCount]
  refine placed.add missing ?_ (List.prefix_refl _) ?_ above ?_ ?_
  · rw [← one] at handsOut
    exact handsOut
  · exact (placed.inPlace _ _ here).root
  · intro index other found
    exact Layout.add_of_some missing (placed.root index other found) first
  · intro index stage other otherLevel same
    obtain ⟨roots, guests, levels, tags⟩ := nodeOf_succ_eq_iff.1 same
    subst roots guests levels
    rw [nodeOf_eq_of_regionTag _ _ (Nat.le_of_lt above) tags]
    exact ⟨table, here⟩

theorem Placed.missing_of_length
    (placed : Placed roots builder layout) {node : Node} (last : node.root = roots.length) :
    layout node = none := by
  cases there : layout node with
  | none => rfl
  | some table => exact absurd last (Nat.ne_of_lt (placed.root_lt there))

/-- The table of a new root. -/
theorem Placed.addRoot
    (placed : Placed roots builder layout) {after : TableBuilder} {first : Word} {guest : Bool}
    (handsOut : HandsOut builder (pageCount guest 0) first after) :
    Placed (roots ++ [⟨first, guest⟩]) after
      (layout.add (nodeOf roots.length guest 0 0) first) := by
  have missing : layout (nodeOf roots.length guest 0 0) = none := placed.missing_of_length rfl
  refine placed.add missing handsOut (List.prefix_append _ _) ?_ (Nat.zero_le _) ?_ ?_
  · exact ⟨⟨first, guest⟩, List.getElem?_concat_length, rfl⟩
  · intro index root found
    by_cases last : index = roots.length
    · subst last
      rw [List.getElem?_concat_length] at found
      cases found
      exact Layout.add_self ..
    · have bound := (List.getElem?_eq_some_iff.1 found).1
      rw [List.length_append, List.length_singleton] at bound
      rw [List.getElem?_append_left (by omega)] at found
      exact Layout.add_of_some missing (placed.root index root found) first
  · intro index stage vpn level same
    cases congrArg Node.level same

/-- A table that is not there yet has no word that is not zero. -/
theorem Laid.word_of_missing
    (laid : Laid roots mappings site layout) {others : List Root} {after : TableBuilder}
    {node : Node} {first : Word} (placed : Placed others after (layout.add node first))
    (missing : layout node = none) {index : Word}
    (inside : index.toNat < 512 * pageCount node.guest node.level) :
    site.memory.readWord (entryAddress first index) = 0 := by
  by_contra nonzero
  obtain ⟨other, table, there, otherIndex, otherInside, address⟩ := laid.inside _ nonzero
  have different : node ≠ other := by
    rintro rfl
    rw [missing] at there
    cases there
  exact placed.entryAddress_ne different (Layout.add_self ..)
    (Layout.add_of_some missing there first) inside otherInside address

/-! ## What is written -/

theorem Unmapped.of_regionTag
    {root : Nat} {vpn other : Word} {level : Nat} (unmapped : Unmapped mappings root vpn level)
    (same : regionTag vpn level = regionTag other level) :
    Unmapped mappings root other level := by
  intro mapping member here levels covers
  subst levels
  exact unmapped mapping member here rfl (same.trans covers)

theorem Expected.congr
    {changed : Layout} {root : Nat} {guest : Bool} {vpn word : Word} {level : Nat}
    (expected : Expected mappings layout root guest vpn level word)
    (same : changed (nodeOf root guest vpn (level + 1)) =
      layout (nodeOf root guest vpn (level + 1))) :
    Expected mappings changed root guest vpn level word := by
  cases expected with
  | leaf mapping member here levels covers => exact .leaf mapping member here levels covers
  | pointer unmapped placed => exact .pointer unmapped (same.trans placed)
  | nothing unmapped missing => exact .nothing unmapped (same.trans missing)

/-- A mapping elsewhere changes nothing. -/
theorem Expected.cons
    {mapping : Mapping} {root : Nat} {guest : Bool} {vpn word : Word} {level : Nat}
    (expected : Expected mappings layout root guest vpn level word)
    (other : mapping.root = root → mapping.level = level → ¬ mapping.Covers vpn) :
    Expected (mapping :: mappings) layout root guest vpn level word := by
  have still (unmapped : Unmapped mappings root vpn level) :
      Unmapped (mapping :: mappings) root vpn level := by
    intro tested member
    rcases List.mem_cons.1 member with rfl | before
    · exact other
    · exact unmapped tested before
  cases expected with
  | leaf mapping member here levels covers =>
      exact .leaf mapping (List.mem_cons_of_mem _ member) here levels covers
  | pointer unmapped placed => exact .pointer (still unmapped) placed
  | nothing unmapped missing => exact .nothing (still unmapped) missing

/-- The slots of a table that is not there yet are to hold nothing, and do. -/
theorem Laid.slot_of_missing
    (laid : Laid roots mappings site layout) {others : List Root} {after : TableBuilder}
    {index : Nat} {guest : Bool} {vpn first : Word} {level : Nat}
    (placed : Placed others after (layout.add (nodeOf index guest vpn level) first))
    (missing : layout (nodeOf index guest vpn level) = none) (bound : level ≤ leafLevel)
    (unmapped : Unmapped mappings index vpn level) :
    Expected mappings (layout.add (nodeOf index guest vpn level) first) index guest vpn level
      (site.slot guest vpn level first) := by
  have zero : site.slot guest vpn level first = 0 :=
    laid.word_of_missing placed missing (tableIndex_lt guest vpn bound)
  have lower : nodeOf index guest vpn (level + 1) ≠ nodeOf index guest vpn level := by
    simp [nodeOf]
  rw [zero]
  refine .nothing unmapped ?_
  rw [Layout.add_of_ne _ lower]
  cases there : layout (nodeOf index guest vpn (level + 1)) with
  | none => rfl
  | some table =>
      obtain ⟨above, found⟩ := laid.placed.upper index guest vpn level table there
      rw [missing] at found
      cases found

/-- What a write leaves in a slot. -/
theorem slot_setWord (site : Site) (builder : TableBuilder) (address data : Word) (guest : Bool)
    (vpn : Word) (level : Nat) (table : Word) :
    Site.slot ⟨site.memory.setWord address data, builder⟩ guest vpn level table =
      if address = entryAddress table (tableIndex guest vpn level) then data
      else site.slot guest vpn level table :=
  Memory.readWord_setWord ..

/-- The entry of a mapping is written to its slot. -/
theorem Laid.addMapping
    (laid : Laid roots mappings site layout) {mapping : Mapping} {guest : Bool} {table : Word}
    (fits : FitsStage guest mapping.vpn)
    (here : layout (nodeOf mapping.root guest mapping.vpn mapping.level) = some table) :
    Laid roots (mapping :: mappings)
      { site with
        memory := site.memory.setWord
          (entryAddress table (tableIndex guest mapping.vpn mapping.level)) mapping.entry.raw }
      layout := by
  have bound : mapping.level ≤ leafLevel := (laid.placed.inPlace _ _ here).level
  constructor
  · exact laid.placed
  · intro tested member
    rcases List.mem_cons.1 member with rfl | before
    · exact ⟨guest, table, here⟩
    · exact laid.mapped tested before
  · intro index otherGuest vpn level other otherFits there
    rw [slot_setWord]
    split
    · rename_i same
      obtain ⟨roots, guests, levels, tags⟩ :=
        laid.placed.slot_unique fits otherFits here there same
      exact .leaf mapping List.mem_cons_self roots levels tags.symm
    · rename_i different
      refine (laid.slots index otherGuest vpn level other otherFits there).cons ?_
      intro roots levels covers
      subst roots levels
      cases laid.placed.guest_eq here there
      rw [nodeOf_eq_of_regionTag _ _ bound covers, here] at there
      rw [Option.some.inj there, tableIndex_eq_of_regionTag guest bound covers] at different
      exact different rfl
  · intro address nonzero
    rw [Memory.readWord_setWord] at nonzero
    split at nonzero
    · rename_i same
      exact ⟨_, table, here, _, tableIndex_lt guest mapping.vpn bound, same.symm⟩
    · exact laid.inside address nonzero

/-- A new table is pointed to from the slot above it. -/
theorem Laid.addTable
    (laid : Laid roots mappings site layout) {root : Nat} {guest : Bool} {vpn table : Word}
    {level : Nat} (fits : FitsStage guest vpn)
    (here : layout (nodeOf root guest vpn level) = some table) (above : level < leafLevel)
    (unmapped : Unmapped mappings root vpn level)
    (missing : layout (nodeOf root guest vpn (level + 1)) = none)
    (small : ∀ page ∈ (site.builder.allocate false).2.pages, page.toNat < 2 ^ 44) :
    Laid roots mappings
      { memory := site.memory.setWord (entryAddress table (tableIndex guest vpn level))
          (Pte.make (site.builder.allocate false).1 Pte.validBit).raw
        builder := (site.builder.allocate false).2 }
      (layout.add (nodeOf root guest vpn (level + 1)) (site.builder.allocate false).1) := by
  have handsOut := handsOut_allocate site.builder false small
  generalize site.builder.allocate false = allocated at handsOut ⊢
  have bound := Nat.le_of_lt above
  have placed := laid.placed.addBelow here above missing handsOut
  have kept := Layout.add_of_some missing here allocated.1
  constructor
  · exact placed
  · intro mapping member
    obtain ⟨stage, below, there⟩ := laid.mapped mapping member
    exact ⟨stage, below, Layout.add_of_some missing there _⟩
  · intro index stage other otherLevel otherTable otherFits there
    rw [slot_setWord]
    by_cases new : nodeOf index stage other otherLevel = nodeOf root guest vpn (level + 1)
    · have otherBound : otherLevel ≤ leafLevel := (placed.inPlace _ _ there).level
      have different : entryAddress table (tableIndex guest vpn level) ≠
          entryAddress otherTable (tableIndex stage other otherLevel) :=
        placed.entryAddress_ne (by rw [new]; simp [nodeOf]) kept there
          (tableIndex_lt guest vpn bound) (tableIndex_lt stage other otherBound)
      rw [if_neg different]
      have roots : index = root := congrArg Node.root new
      have guests : stage = guest := congrArg Node.guest new
      subst roots guests
      rw [← new] at placed missing there ⊢
      rw [Layout.add_self] at there
      cases there
      refine laid.slot_of_missing placed missing otherBound ?_
      intro mapping member roots levels covers
      subst roots levels
      obtain ⟨below, found⟩ := laid.node_of_covers member covers here
      rw [missing] at found
      cases found
    · rw [Layout.add_of_ne _ new] at there
      split
      · rename_i same
        obtain ⟨roots, guests, levels, tags⟩ :=
          laid.placed.slot_unique fits otherFits here there same
        subst roots guests levels
        refine .pointer (unmapped.of_regionTag tags) ?_
        rw [nodeOf_succ_eq_iff.2 ⟨rfl, rfl, rfl, tags.symm⟩, Layout.add_self]
      · rename_i different
        refine (laid.slots index stage other otherLevel otherTable otherFits there).congr ?_
        refine Layout.add_of_ne _ (fun same => different ?_) _
        obtain ⟨roots, guests, levels, tags⟩ := nodeOf_succ_eq_iff.1 same
        subst roots guests levels
        rw [nodeOf_eq_of_regionTag _ _ bound tags, here] at there
        rw [Option.some.inj there, tableIndex_eq_of_regionTag stage bound tags]
  · intro address nonzero
    rw [Memory.readWord_setWord] at nonzero
    split at nonzero
    · rename_i same
      exact ⟨_, table, kept, _, tableIndex_lt guest vpn bound, same.symm⟩
    · obtain ⟨node, other, there, rest⟩ := laid.inside address nonzero
      exact ⟨node, other, Layout.add_of_some missing there _, rest⟩

/-- The root of a stage is handed out. -/
theorem Laid.addRoot
    (laid : Laid roots mappings site layout) (guest : Bool)
    (small : ∀ page ∈ (site.builder.allocate guest).2.pages, page.toNat < 2 ^ 44) :
    Laid (roots ++ [⟨(site.builder.allocate guest).1, guest⟩]) mappings
      { site with builder := (site.builder.allocate guest).2 }
      (layout.add (nodeOf roots.length guest 0 0) (site.builder.allocate guest).1) := by
  have handsOut := handsOut_allocate site.builder guest small
  generalize site.builder.allocate guest = allocated at handsOut ⊢
  have placed := laid.placed.addRoot handsOut
  have missing : layout (nodeOf roots.length guest 0 0) = none :=
    laid.placed.missing_of_length rfl
  constructor
  · exact placed
  · intro mapping member
    obtain ⟨stage, below, there⟩ := laid.mapped mapping member
    exact ⟨stage, below, Layout.add_of_some missing there _⟩
  · intro index stage vpn level table fits there
    by_cases new : nodeOf index stage vpn level = nodeOf roots.length guest 0 0
    · have bound : level ≤ leafLevel := (placed.inPlace _ _ there).level
      rw [← new] at placed missing there ⊢
      rw [Layout.add_self] at there
      cases there
      refine laid.slot_of_missing placed missing bound ?_
      intro mapping member roots _ _
      obtain ⟨stage, below, found⟩ := laid.mapped mapping member
      rw [laid.placed.missing_of_length (roots.trans (congrArg Node.root new))] at found
      cases found
    · rw [Layout.add_of_ne _ new] at there
      refine (laid.slots index stage vpn level table fits there).congr ?_
      exact Layout.add_of_ne _ (by simp [nodeOf]) _
  · intro address nonzero
    obtain ⟨node, table, there, rest⟩ := laid.inside address nonzero
    exact ⟨node, table, Layout.add_of_some missing there _, rest⟩

end PageWalk.TableBuilder
