import Mathlib.Data.List.Pairwise
import PageWalk.Proofs.Outcome
import PageWalk.Proofs.Tables.Layout

/-!
# Mappings that are built and walked

Tables are built by handing out roots and by mapping under them, in any order. As long as the
regions that are mapped under a root have no page number in common, the plain walk finds the entry
of every mapping where it was put, and nothing where there is none.
-/

namespace PageWalk.TableBuilder

variable {roots : List Root} {mappings : List Mapping} {site : Site} {layout : Layout}

/-! ## The way down -/

theorem writeWord_entry (memory : Memory) (page index data : Word) :
    memory.writeWord (entryAddress page index) data =
      .ok (memory.setWord (entryAddress page index) data) := by
  simp [Memory.writeWord, entryAddress_aligned]

/-- The site where a descent ends, also if a leaf is in its way. -/
def Site.descentEnd (site : Site) (guest : Bool) (vpn : Word) : List Nat → Word → Site
  | [], _ => site
  | level :: levels, table =>
      match site.enter guest vpn level table with
      | .error _ => site
      | .ok (below, after) => after.descentEnd guest vpn levels below

/-- The site that a mapping leaves, apart from the entry itself. -/
def Site.mapEnd (site : Site) (root : Root) (mapping : Mapping) : Site :=
  if leafLevel < mapping.level then
    site
  else
    site.descentEnd root.guest mapping.vpn (List.range mapping.level) root.page

/-- Pages that were handed out stay handed out. -/
theorem pages_subset_of_enter
    {guest : Bool} {vpn table page : Word} {level : Nat} {after : Site}
    (entered : site.enter guest vpn level table = .ok (page, after)) :
    site.builder.pages ⊆ after.builder.pages := by
  simp only [Site.enter, writeWord_entry] at entered
  split at entered
  · split at entered
    · cases entered
    · cases entered
      exact List.Subset.refl _
  · cases entered
    exact List.subset_append_left _ _

theorem pages_subset_descentEnd (guest : Bool) (vpn : Word) (levels : List Nat) (table : Word) :
    site.builder.pages ⊆ (site.descentEnd guest vpn levels table).builder.pages := by
  induction levels generalizing site table with
  | nil => exact List.Subset.refl _
  | cons level levels inductionHypothesis =>
      simp only [Site.descentEnd]
      split
      · exact List.Subset.refl _
      · rename_i below after entered
        exact List.Subset.trans (pages_subset_of_enter entered) (inductionHypothesis below)

theorem descentEnd_of_descend
    {guest : Bool} {vpn table page : Word} {levels : List Nat} {after : Site}
    (descended : site.descend guest vpn levels table = .ok (page, after)) :
    site.descentEnd guest vpn levels table = after := by
  induction levels generalizing site table with
  | nil =>
      cases descended
      rfl
  | cons level levels inductionHypothesis =>
      simp only [Site.descend] at descended
      simp only [Site.descentEnd]
      cases entered : site.enter guest vpn level table with
      | error fault =>
          rw [entered] at descended
          cases descended
      | ok entry =>
          rw [entered] at descended
          exact inductionHypothesis descended

/-- A mapping writes its entry into the site where its descent ends. -/
theorem mapEnd_of_map
    {root : Root} {mapping : Mapping} {after : Site}
    (mapped : site.map root.guest root.page mapping.vpn mapping.ppn mapping.level mapping.flags =
      .ok after) :
    after.builder = (site.mapEnd root mapping).builder := by
  unfold Site.map Site.setEntry at mapped
  unfold Site.mapEnd
  split at mapped
  · cases mapped
  · rename_i bound
    rw [if_neg bound]
    cases descended :
        site.descend root.guest mapping.vpn (List.range mapping.level) root.page with
    | error fault =>
        rw [descended] at mapped
        cases mapped
    | ok entry =>
        rw [descended] at mapped
        rw [descentEnd_of_descend descended]
        change (entry.2.memory.writeWord _ _ >>= _) = _ at mapped
        rw [writeWord_entry] at mapped
        cases mapped
        rfl

/-- A page number that nothing covers is led on to the table of the next level, which is new if
there was none. -/
theorem Laid.enter
    (laid : Laid roots mappings site layout) {root : Nat} {guest : Bool} {vpn table : Word}
    {level : Nat} (fits : FitsStage guest vpn)
    (here : layout (nodeOf root guest vpn level) = some table) (above : level < leafLevel)
    (free : ∀ mapping ∈ mappings, mapping.root = root → ¬ mapping.Covers vpn) :
    ∃ page after, site.enter guest vpn level table = .ok (page, after) ∧
      ((∀ handed ∈ after.builder.pages, handed.toNat < 2 ^ 44) →
        ∃ changed, Laid roots mappings after changed ∧
          changed (nodeOf root guest vpn (level + 1)) = some page) := by
  have expected := laid.slots root guest vpn level table fits here
  unfold Site.slot at expected
  simp only [Site.enter]
  generalize site.memory.readWord (entryAddress table (tableIndex guest vpn level)) = word
    at expected ⊢
  cases expected with
  | leaf mapping member same levels covers => exact absurd covers (free mapping member same)
  | @pointer unmapped below placed =>
      obtain ⟨valid, leaf, _⟩ := Pte.pointer_make below
      have small : below.toNat < 2 ^ 44 := laid.placed.toNat_lt placed
      refine ⟨below, site, ?_, fun _ => ⟨layout, laid, placed⟩⟩
      simp [valid, leaf, Pte.ppn_make small]
  | nothing unmapped missing =>
      refine ⟨(Pte.make (site.builder.allocate false).1 Pte.validBit).ppn,
        { memory := site.memory.setWord (entryAddress table (tableIndex guest vpn level))
            (Pte.make (site.builder.allocate false).1 Pte.validBit).raw
          builder := (site.builder.allocate false).2 }, ?_, ?_⟩
      · rw [writeWord_entry, if_neg (by simp [Pte.valid_zero])]
        rfl
      · intro small
        have page := small (site.builder.allocate false).1 (by simp [allocate])
        refine ⟨_, laid.addTable fits here above unmapped missing small, ?_⟩
        rw [Layout.add_self, Pte.ppn_make page]

/-- A page number that nothing covers is led down to the table of every level. -/
theorem Laid.descend
    (laid : Laid roots mappings site layout) {root : Nat} {guest : Bool} {vpn table : Word}
    {level count : Nat} (fits : FitsStage guest vpn)
    (here : layout (nodeOf root guest vpn level) = some table) (bound : level + count ≤ leafLevel)
    (free : ∀ mapping ∈ mappings, mapping.root = root → ¬ mapping.Covers vpn)
    (small : ∀ handed ∈
        (site.descentEnd guest vpn (List.range' level count) table).builder.pages,
      handed.toNat < 2 ^ 44) :
    ∃ page after changed,
      site.descend guest vpn (List.range' level count) table = .ok (page, after) ∧
        Laid roots mappings after changed ∧
        changed (nodeOf root guest vpn (level + count)) = some page := by
  induction count generalizing site layout level table with
  | zero => exact ⟨table, site, layout, rfl, laid, here⟩
  | succ count inductionHypothesis =>
      obtain ⟨below, after, entered, further⟩ := laid.enter fits here (by omega) free
      simp only [List.range'_succ, Site.descentEnd, entered] at small
      obtain ⟨changed, next, there⟩ :=
        further fun handed member => small handed (pages_subset_descentEnd _ _ _ _ member)
      have rest : level + 1 + count = level + (count + 1) := by omega
      obtain ⟨page, last, final, descended, done, reached⟩ :=
        inductionHypothesis next there (by omega) small
      refine ⟨page, last, final, ?_, done, rest ▸ reached⟩
      simp only [List.range'_succ, Site.descend, entered]
      exact descended

/-! ## Commands -/

inductive Command
  | allocate (guest : Bool)
  | map (mapping : Mapping)

def Command.stage? : Command → Option Bool
  | .allocate guest => some guest
  | .map _ => none

def Command.mapping? : Command → Option Mapping
  | .allocate _ => none
  | .map mapping => some mapping

/-- The stages of the roots that are handed out. -/
def stages (commands : List Command) : List Bool :=
  commands.filterMap Command.stage?

/-- The mappings that are made. -/
def mappingsOf (commands : List Command) : List Mapping :=
  commands.filterMap Command.mapping?

theorem stages_append (commands others : List Command) :
    stages (commands ++ others) = stages commands ++ stages others :=
  List.filterMap_append

theorem mappingsOf_append (commands others : List Command) :
    mappingsOf (commands ++ others) = mappingsOf commands ++ mappingsOf others :=
  List.filterMap_append

/-- Where so many roots are known already, no mapping is made under a root before it is handed
out. -/
def Rooted : Nat → List Command → Prop
  | _, [] => True
  | known, .allocate _ :: commands => Rooted (known + 1) commands
  | known, .map mapping :: commands => mapping.root < known ∧ Rooted known commands

/-- A site with the roots in it and the mappings under them, the latest first. -/
structure Works where
  site : Site
  roots : List Root := []
  mappings : List Mapping := []

/-- Hands out a root, or maps under one that there is. -/
def perform (command : Command) (works : Works) : Outcome Works :=
  match command with
  | .allocate guest =>
      let (page, builder) := works.site.builder.allocate guest
      { state :=
          { works with
            site := { works.site with builder := builder }
            roots := works.roots ++ [⟨page, guest⟩] } }
  | .map mapping =>
      match works.roots[mapping.root]? with
      | none => { state := works }
      | some root =>
          let mappings := mapping :: works.mappings
          match works.site.map root.guest root.page mapping.vpn mapping.ppn mapping.level
              mapping.flags with
          | .ok site => { state := { works with site := site, mappings := mappings } }
          | .error fault =>
              let site := works.site.mapEnd root mapping
              .stop { works with site := site, mappings := mappings } fault

/-- The page number of a mapping belongs to its stage, and its flags make it a leaf. -/
structure Mapping.Sound (guest : Bool) (mapping : Mapping) : Prop where
  fits : FitsStage guest mapping.vpn
  level : mapping.level ≤ leafLevel
  valid : mapping.flags &&& Pte.validBit ≠ 0
  leaf : mapping.flags &&& Pte.readBit ≠ 0 ∨ mapping.flags &&& Pte.executeBit ≠ 0

instance (guest : Bool) (mapping : Mapping) : Decidable (mapping.Sound guest) :=
  decidable_of_iff
    (FitsStage guest mapping.vpn ∧ mapping.level ≤ leafLevel ∧
      mapping.flags &&& Pte.validBit ≠ 0 ∧
      (mapping.flags &&& Pte.readBit ≠ 0 ∨ mapping.flags &&& Pte.executeBit ≠ 0))
    ⟨fun ⟨fits, level, valid, leaf⟩ => ⟨fits, level, valid, leaf⟩,
      fun ⟨fits, level, valid, leaf⟩ => ⟨fits, level, valid, leaf⟩⟩

/-- No page number is covered by two mappings under one root. -/
def Mapping.Disjoint (mapping other : Mapping) : Prop :=
  mapping.root = other.root → ∀ vpn, ¬ (mapping.Covers vpn ∧ other.Covers vpn)

instance : Std.Symm Mapping.Disjoint where
  symm _ _ apart same vpn both := apart same.symm vpn both.symm

/-- Mappings are disjoint if they lie in different regions of the upper one of their levels. -/
theorem Mapping.disjoint_of_regionTag
    {mapping other : Mapping} (above : mapping.level ≤ other.level)
    (bound : other.level ≤ leafLevel)
    (different : regionTag mapping.vpn mapping.level ≠ regionTag other.vpn mapping.level) :
    mapping.Disjoint other := by
  intro _ vpn both
  obtain ⟨covers, otherCovers⟩ := both
  exact different (covers.symm.trans (regionTag_eq_of_le above bound otherCovers))

/-- The mappings are sound and disjoint, and no table page is too large for an entry. -/
structure Works.Allowed (works : Works) : Prop where
  sound : ∀ mapping ∈ works.mappings, ∀ root, works.roots[mapping.root]? = some root →
    mapping.Sound root.guest
  disjoint : works.mappings.Pairwise Mapping.Disjoint
  small : ∀ page ∈ works.site.builder.pages, page.toNat < 2 ^ 44

/-- What there is in the first works is there in the later ones. -/
structure Works.Extends (works later : Works) : Prop where
  pages : works.site.builder.pages ⊆ later.site.builder.pages
  roots : works.roots <+: later.roots
  mappings : works.mappings <:+ later.mappings

variable {works later : Works}

theorem Works.Extends.refl (works : Works) : works.Extends works :=
  ⟨List.Subset.refl _, List.prefix_refl _, List.suffix_refl _⟩

theorem Works.Extends.trans
    {last : Works} (first : works.Extends later) (second : later.Extends last) :
    works.Extends last :=
  ⟨List.Subset.trans first.pages second.pages, List.IsPrefix.trans first.roots second.roots,
    List.IsSuffix.trans first.mappings second.mappings⟩

theorem Works.Extends.allowed (grows : works.Extends later) (allowed : later.Allowed) :
    works.Allowed := by
  constructor
  · intro mapping member root found
    obtain ⟨others, same⟩ := grows.roots
    refine allowed.sound mapping (grows.mappings.subset member) root ?_
    rw [← same, List.getElem?_append_left (List.getElem?_eq_some_iff.1 found).1, found]
  · exact allowed.disjoint.sublist grows.mappings.sublist
  · exact fun page member => allowed.small page (grows.pages member)

theorem mapEnd_pages (site : Site) (root : Root) (mapping : Mapping) :
    site.builder.pages ⊆ (site.mapEnd root mapping).builder.pages := by
  unfold Site.mapEnd
  split
  · exact List.Subset.refl _
  · exact pages_subset_descentEnd _ _ _ _

theorem extends_perform (command : Command) (works : Works) :
    works.Extends (perform command works).state := by
  cases command with
  | allocate guest =>
      exact ⟨List.subset_append_left _ _, List.prefix_append _ _, List.suffix_refl _⟩
  | map mapping =>
      simp only [perform]
      split
      · exact .refl works
      · rename_i root found
        split
        · rename_i site mapped
          refine ⟨?_, List.prefix_refl _, List.suffix_cons _ _⟩
          rw [mapEnd_of_map mapped]
          exact mapEnd_pages _ _ _
        · exact ⟨mapEnd_pages _ _ _, List.prefix_refl _, List.suffix_cons _ _⟩

theorem extends_forEach (commands : List Command) (works : Works) :
    works.Extends (Outcome.forEach perform commands works).state := by
  have step (command : Command) (_ : command ∈ commands) (current : Works)
      (grown : works.Extends current) : works.Extends (perform command current).state :=
    grown.trans (extends_perform command current)
  exact Outcome.forEach_state_induction step (.refl works)

/-- The tables of the works are laid out for their mappings. -/
def Works.Stands (works : Works) : Prop :=
  ∃ layout, Laid works.roots works.mappings works.site layout

theorem Works.Stands.allocate
    (stands : works.Stands) (guest : Bool)
    (allowed : (perform (.allocate guest) works).state.Allowed) :
    (perform (.allocate guest) works).state.Stands := by
  obtain ⟨layout, laid⟩ := stands
  exact ⟨_, laid.addRoot guest allowed.small⟩

/-- A mapping that is allowed finds no leaf in its way. -/
theorem Works.Stands.map
    (stands : works.Stands) {mapping : Mapping} {root : Root}
    (found : works.roots[mapping.root]? = some root)
    (allowed : Works.Allowed
      { works with
        site := works.site.mapEnd root mapping
        mappings := mapping :: works.mappings }) :
    ∃ site, works.site.map root.guest root.page mapping.vpn mapping.ppn mapping.level
        mapping.flags = .ok site ∧
      Works.Stands { works with site := site, mappings := mapping :: works.mappings } := by
  obtain ⟨layout, laid⟩ := stands
  obtain ⟨fits, bound, _, _⟩ := allowed.sound mapping List.mem_cons_self root found
  have free (other : Mapping) (member : other ∈ works.mappings)
      (same : other.root = mapping.root) : ¬ other.Covers mapping.vpn := by
    intro covers
    have apart := (List.pairwise_cons.1 allowed.disjoint).1 other member same.symm
    exact apart mapping.vpn ⟨rfl, covers⟩
  have small := allowed.small
  simp only [Site.mapEnd, if_neg (Nat.not_lt.2 bound), List.range_eq_range'] at small
  obtain ⟨page, after, changed, descended, next, here⟩ :=
    laid.descend fits (laid.placed.root _ _ found) (by omega) free small
  rw [Nat.zero_add] at here
  refine ⟨_, ?_, changed, next.addMapping fits here⟩
  unfold Site.map Site.setEntry
  rw [if_neg (Nat.not_lt.2 bound), List.range_eq_range', descended]
  change (after.memory.writeWord _ _ >>= _) = _
  rw [writeWord_entry]
  rfl

theorem Works.Stands.perform
    (stands : works.Stands) (command : Command)
    (allowed : (TableBuilder.perform command works).state.Allowed) :
    (TableBuilder.perform command works).fault = none ∧
      (TableBuilder.perform command works).state.Stands := by
  cases command with
  | allocate guest => exact ⟨rfl, stands.allocate guest allowed⟩
  | map mapping =>
      cases found : works.roots[mapping.root]? with
      | none =>
          simp only [TableBuilder.perform, found]
          exact ⟨trivial, stands⟩
      | some root =>
          have ended : Works.Allowed
              { works with
                site := works.site.mapEnd root mapping
                mappings := mapping :: works.mappings } := by
            simp only [TableBuilder.perform, found] at allowed
            split at allowed
            · rename_i site mapped
              refine { allowed with small := ?_ }
              rw [← mapEnd_of_map mapped]
              exact allowed.small
            · exact allowed
          obtain ⟨site, mapped, next⟩ := stands.map found ended
          simp only [TableBuilder.perform, found, mapped]
          exact ⟨trivial, next⟩

theorem stands_of_forEach
    (commands : List Command) (stands : works.Stands)
    (allowed : (Outcome.forEach perform commands works).state.Allowed) :
    (Outcome.forEach perform commands works).fault = none ∧
      (Outcome.forEach perform commands works).state.Stands := by
  induction commands generalizing works with
  | nil => exact ⟨rfl, stands⟩
  | cons command commands inductionHypothesis =>
      have grows : (perform command works).state.Extends
          (Outcome.forEach perform (command :: commands) works).state :=
        Outcome.andThen_state_induction (.refl _) fun _ _ => extends_forEach commands _
      obtain ⟨running, next⟩ := stands.perform command (grows.allowed allowed)
      simp only [Outcome.forEach, Outcome.andThen_of_running _ running] at allowed ⊢
      exact inductionHypothesis next allowed

/-! ## Walks -/

/-- The tables under a root, read from the pages that they name. -/
def Site.tree (site : Site) (root : Root) : TableTree where
  root := root.page
  guest := root.guest
  page? := some
  outside := fun _ => false
  word := site.memory.readWord

/-- On the way of a page number there is a last table. -/
theorem Placed.last_table
    {builder : TableBuilder} (placed : Placed roots builder layout) {index : Nat} {root : Root}
    (found : roots[index]? = some root) (vpn : Word) :
    ∃ level table, layout (nodeOf index root.guest vpn level) = some table ∧
      layout (nodeOf index root.guest vpn (level + 1)) = none := by
  by_contra never
  have every (level : Nat) : ∃ table, layout (nodeOf index root.guest vpn level) = some table := by
    induction level with
    | zero => exact ⟨root.page, placed.root index root found⟩
    | succ level inductionHypothesis =>
        obtain ⟨table, here⟩ := inductionHypothesis
        cases below : layout (nodeOf index root.guest vpn (level + 1)) with
        | none => exact absurd ⟨level, table, here, below⟩ never
        | some next => exact ⟨next, rfl⟩
  obtain ⟨table, here⟩ := every (leafLevel + 1)
  exact Nat.not_succ_le_self leafLevel (placed.inPlace _ _ here).level

theorem covers_of_fits {root : Root} {vpn : Word} (fits : FitsStage root.guest vpn) :
    (site.tree root).covers vpn = true := by
  cases guest : root.guest with
  | false => simp [TableTree.covers, Site.tree, guest]
  | true =>
      have zero : vpn >>> guestVpnBits.toUInt64 = 0 := by
        apply UInt64.toNat_inj.1
        rw [guest] at fits
        rw [toNat_shiftRight_eq_div vpn (by decide : _ = 29)]
        exact Nat.div_eq_of_lt fits
      simp [TableTree.covers, Site.tree, zero]

variable {index : Nat} {root : Root} {vpn table : Word} {level : Nat}

theorem pteAt_of_reached (reached : (site.tree root).tableAt? vpn level = some table) :
    (site.tree root).pteAt? vpn level = some ⟨site.slot root.guest vpn level table⟩ :=
  TableTree.pteAt_of_tableAt reached rfl

theorem ending_of_pointer (below : Word) (above : level < leafLevel) :
    (site.tree root).ending? (Pte.make below Pte.validBit) level = none := by
  obtain ⟨_, leaf, sound⟩ := Pte.pointer_make below
  simp [TableTree.ending?, Site.tree, leaf, sound level (Nat.ne_of_lt above)]

/-- The walk comes to every table on the way of its page number, unless it meets a leaf above. -/
theorem Laid.tableAt
    (laid : Laid roots mappings site layout) (found : roots[index]? = some root)
    (fits : FitsStage root.guest vpn)
    (here : layout (nodeOf index root.guest vpn level) = some table)
    (free : ∀ upper < level, Unmapped mappings index vpn upper) :
    (site.tree root).tableAt? vpn level = some table := by
  induction level generalizing table with
  | zero =>
      have same : layout (nodeOf index root.guest vpn 0) = some root.page :=
        laid.placed.root index root found
      rw [here] at same
      rw [TableTree.tableAt_zero (covers_of_fits fits), Option.some.inj same]
      rfl
  | succ level inductionHypothesis =>
      have above : level < leafLevel := (laid.placed.inPlace _ _ here).level
      obtain ⟨upper, there⟩ := laid.placed.upper index root.guest vpn level table here
      have reached := inductionHypothesis there fun other lower =>
        free other (Nat.lt_succ_of_lt lower)
      have read := pteAt_of_reached reached
      have expected := laid.slots index root.guest vpn level upper fits there
      generalize site.slot root.guest vpn level upper = word at read expected
      cases expected with
      | leaf mapping member same levels covers =>
          exact absurd covers (free level (Nat.lt_succ_self level) mapping member same levels)
      | @pointer unmapped below placed =>
          rw [here] at placed
          cases placed
          have small : table.toNat < 2 ^ 44 := laid.placed.toNat_lt here
          rw [TableTree.tableAt_succ read (ending_of_pointer table above), Pte.ppn_make small]
      | nothing unmapped missing =>
          rw [here] at missing
          cases missing

theorem Mapping.Sound.isLeaf {guest : Bool} {mapping : Mapping} (sound : mapping.Sound guest) :
    mapping.entry.isLeaf = true := by
  have bits (bit : Word) (low : bit.toNat < 2 ^ 8) := Pte.has_make mapping.ppn mapping.flags low
  have valid : mapping.entry.valid = true := by
    rw [Pte.valid, Mapping.entry, bits _ (by decide)]
    exact bne_iff_ne.2 sound.valid
  have executable : (mapping.entry.has Pte.readBit || mapping.entry.has Pte.executeBit) = true := by
    rw [Mapping.entry, bits _ (by decide), bits _ (by decide), Bool.or_eq_true, bne_iff_ne,
      bne_iff_ne]
    exact sound.leaf
  rw [Pte.isLeaf, valid, executable]
  rfl

/-- Of two mappings under one root only one covers a page number. -/
theorem eq_of_covers
    (disjoint : mappings.Pairwise Mapping.Disjoint) {mapping other : Mapping}
    (member : mapping ∈ mappings) (otherMember : other ∈ mappings)
    (same : mapping.root = other.root) (covers : mapping.Covers vpn)
    (otherCovers : other.Covers vpn) : mapping = other := by
  by_contra different
  exact disjoint.forall member otherMember different same vpn ⟨covers, otherCovers⟩

/-- The walk of a page number that a mapping covers ends at the entry of the mapping. -/
theorem Laid.walk_of_covers
    (laid : Laid roots mappings site layout) (disjoint : mappings.Pairwise Mapping.Disjoint)
    {mapping : Mapping} (member : mapping ∈ mappings)
    (found : roots[mapping.root]? = some root) (sound : mapping.Sound root.guest)
    (fits : FitsStage root.guest vpn) (covers : mapping.Covers vpn) :
    ((site.tree root).walk vpn).level = mapping.level ∧
      ((site.tree root).walk vpn).pte = mapping.entry := by
  obtain ⟨table, here⟩ := laid.node_of_covers member covers (laid.placed.root _ _ found)
  have free (upper : Nat) (above : upper < mapping.level) :
      Unmapped mappings mapping.root vpn upper := by
    intro other otherMember same levels otherCovers
    rw [eq_of_covers disjoint otherMember member same otherCovers covers] at levels
    omega
  have read := pteAt_of_reached (laid.tableAt found fits here free)
  have expected := laid.slots mapping.root root.guest vpn mapping.level table fits here
  generalize site.slot root.guest vpn mapping.level table = word at read expected
  cases expected with
  | leaf other otherMember same levels otherCovers =>
      cases eq_of_covers disjoint otherMember member same otherCovers covers
      obtain ⟨ending, ends⟩ := Option.ne_none_iff_exists'.1
        (TableTree.ending_ne_none_of_isLeaf sound.isLeaf mapping.level)
      obtain ⟨end_, walk⟩ := TableTree.walk_of_ending sound.level read ends
      rw [walk]
      exact ⟨rfl, rfl⟩
  | pointer unmapped => exact absurd covers (unmapped mapping member rfl rfl)
  | nothing unmapped => exact absurd covers (unmapped mapping member rfl rfl)

/-- The walk of a page number that nothing covers ends at an invalid entry. -/
theorem Laid.walk_of_unmapped
    (laid : Laid roots mappings site layout) (found : roots[index]? = some root)
    (fits : FitsStage root.guest vpn)
    (free : ∀ mapping ∈ mappings, mapping.root = index → ¬ mapping.Covers vpn) :
    ((site.tree root).walk vpn).ending = .pageFault ∧
      ((site.tree root).walk vpn).pte.valid = false := by
  have unmapped (upper : Nat) : Unmapped mappings index vpn upper :=
    fun mapping member same _ => free mapping member same
  obtain ⟨level, table, here, missing⟩ := laid.placed.last_table found vpn
  have bound : level ≤ leafLevel := (laid.placed.inPlace _ _ here).level
  have read := pteAt_of_reached (laid.tableAt found fits here fun upper _ => unmapped upper)
  have expected := laid.slots index root.guest vpn level table fits here
  generalize site.slot root.guest vpn level table = word at read expected
  cases expected with
  | leaf mapping member same levels covers => exact absurd covers (free mapping member same)
  | pointer _ placed =>
      rw [missing] at placed
      cases placed
  | nothing =>
      have ends : (site.tree root).ending? ⟨0⟩ level = some .pageFault := rfl
      obtain ⟨table, walk⟩ := TableTree.walk_of_ending bound read ends
      rw [walk]
      exact ⟨rfl, Pte.valid_zero⟩

theorem stands_of_empty
    {memory : Memory} (empty : ∀ address, memory.readWord address = 0) (builder : TableBuilder) :
    Works.Stands { site := { memory := memory, builder := builder } } := by
  refine ⟨fun _ => none, ⟨?_, ?_, ?_, ?_⟩, ?_, ?_, ?_⟩
  · intro index root found
    cases found
  · intro node table here
    cases here
  · intro node other table otherTable _ here
    cases here
  · intro index guest vpn level table here
    cases here
  · intro mapping member
    cases member
  · intro index guest vpn level table _ here
    cases here
  · intro address nonzero
    exact absurd (empty address) nonzero

theorem recorded_of_perform
    {command : Command} {commands : List Command}
    (rooted : Rooted works.roots.length (command :: commands)) :
    (perform command works).state.roots.map Root.guest =
        works.roots.map Root.guest ++ command.stage?.toList ∧
      (perform command works).state.mappings.reverse =
        works.mappings.reverse ++ command.mapping?.toList ∧
      Rooted (perform command works).state.roots.length commands := by
  cases command with
  | allocate guest =>
      change Rooted (works.roots.length + 1) commands at rooted
      simpa [perform, Command.stage?, Command.mapping?] using rooted
  | map mapping =>
      obtain ⟨inside, further⟩ := rooted
      simp only [perform, List.getElem?_eq_getElem inside]
      split
      · simpa [Command.stage?, Command.mapping?] using further
      · simpa [Command.stage?, Command.mapping?, Outcome.stop] using further

/-- Of some commands the first ones are carried out, and all of them unless there is a fault. -/
theorem recorded_of_forEach
    (works : Works) {commands : List Command} (rooted : Rooted works.roots.length commands) :
    ∃ done rest, commands = done ++ rest ∧
      (Outcome.forEach perform commands works).state.roots.map Root.guest =
        works.roots.map Root.guest ++ stages done ∧
      (Outcome.forEach perform commands works).state.mappings.reverse =
        works.mappings.reverse ++ mappingsOf done ∧
      ((Outcome.forEach perform commands works).fault = none → rest = []) := by
  induction commands generalizing works with
  | nil => exact ⟨[], [], rfl, by simp [Outcome.forEach, stages, mappingsOf]⟩
  | cons command commands inductionHypothesis =>
      obtain ⟨stage, mapping, further⟩ := recorded_of_perform rooted
      simp only [Outcome.forEach]
      cases stopped : (perform command works).fault with
      | some fault =>
          rw [Outcome.andThen_of_stopped _ stopped]
          refine ⟨[command], commands, rfl, ?_, ?_, fun running => ?_⟩
          · rw [stage]
            cases command <;> rfl
          · rw [mapping]
            cases command <;> rfl
          · rw [stopped] at running
            cases running
      | none =>
          obtain ⟨done, rest, split, stageRest, mappingRest, all⟩ := inductionHypothesis _ further
          rw [Outcome.andThen_of_running _ stopped]
          refine ⟨command :: done, rest, by rw [split]; rfl, ?_, ?_, all⟩
          · rw [stageRest, stage, List.append_assoc]
            cases command <;> rfl
          · rw [mappingRest, mapping, List.append_assoc]
            cases command <;> rfl

/-- Roots are handed out and mappings are made under them in an empty memory, in any order. If the
mappings under one root are disjoint and an entry can name every table page, there is no fault. Then
under every root the plain walk of a page number that a mapping covers comes to the entry of the
mapping, at its level, and any other walk ends at an invalid entry. -/
theorem walk_of_built
    (memory : Memory) (first : Word) (commands : List Command)
    (empty : ∀ address, memory.readWord address = 0) (rooted : Rooted 0 commands)
    (sound : ∀ mapping ∈ mappingsOf commands, ∀ guest,
      (stages commands)[mapping.root]? = some guest → mapping.Sound guest)
    (disjoint : (mappingsOf commands).Pairwise Mapping.Disjoint) :
    let built := Outcome.forEach perform commands
      { site := { memory := memory, builder := { nextPpn := first } } }
    (∀ page ∈ built.state.site.builder.pages, page.toNat < 2 ^ 44) →
      built.fault = none ∧ built.state.roots.map Root.guest = stages commands ∧
      ∀ index root, built.state.roots[index]? = some root → ∀ vpn, FitsStage root.guest vpn →
        let walkEnd := (built.state.site.tree root).walk vpn
        (∀ mapping ∈ mappingsOf commands, mapping.root = index → mapping.Covers vpn →
          walkEnd.level = mapping.level ∧ walkEnd.pte = Pte.make mapping.ppn mapping.flags) ∧
        ((∀ mapping ∈ mappingsOf commands, mapping.root = index → ¬ mapping.Covers vpn) →
          walkEnd.ending = .pageFault ∧ walkEnd.pte.valid = false) := by
  intro built small
  obtain ⟨done, rest, split, known, recorded, all⟩ := recorded_of_forEach
    { site := { memory := memory, builder := { nextPpn := first } } } rooted
  change built.state.roots.map Root.guest = stages done at known
  change built.state.mappings.reverse = mappingsOf done at recorded
  have allowed : built.state.Allowed := by
    constructor
    · intro mapping member root found
      refine sound mapping ?_ root.guest ?_
      · have among := List.mem_reverse.2 member
        rw [recorded] at among
        rw [split, mappingsOf_append]
        exact List.mem_append_left _ among
      · have stage : (built.state.roots.map Root.guest)[mapping.root]? = some root.guest := by
          rw [List.getElem?_map, found]
          rfl
        rw [known] at stage
        rw [split, stages_append,
          List.getElem?_append_left (List.getElem?_eq_some_iff.1 stage).1, stage]
    · have among : (mappingsOf done).Pairwise Mapping.Disjoint := by
        rw [split, mappingsOf_append] at disjoint
        exact (List.pairwise_append.1 disjoint).1
      rw [← List.reverse_reverse built.state.mappings, List.pairwise_reverse, recorded]
      exact among.imp fun apart => Std.Symm.symm _ _ apart
    · exact small
  obtain ⟨running, layout, laid⟩ :=
    stands_of_forEach commands (stands_of_empty empty { nextPpn := first }) allowed
  have complete : done = commands := by
    rw [split, all running, List.append_nil]
  subst complete
  have same (mapping : Mapping) : mapping ∈ built.state.mappings ↔ mapping ∈ mappingsOf done := by
    rw [← List.mem_reverse, recorded]
  refine ⟨running, known, fun index root found vpn fits => ⟨?_, ?_⟩⟩
  · intro mapping member here covers
    subst here
    have held := (same mapping).2 member
    exact laid.walk_of_covers allowed.disjoint held found
      (allowed.sound mapping held root found) fits covers
  · intro free
    refine laid.walk_of_unmapped found fits fun mapping member => ?_
    exact free mapping ((same mapping).1 member)

/-- A region of 2 MiB and a page beside it are mapped under a root of the first stage, and a region
of 1 GiB under a root of the second stage, where its entry is not on the first page. -/
theorem walk_of_small_build :
    let region : Mapping := { root := 1, vpn := 0x12400, ppn := 0x600, level := 1 }
    let giant : Mapping := { root := 0, vpn := 0x10040000, ppn := 0x40000, level := 0 }
    let page : Mapping := { root := 1, vpn := 0x12345, ppn := 0x8000 }
    let commands : List Command :=
      [.allocate true, .allocate false, .map region, .map giant, .map page]
    let built := Outcome.forEach perform commands
      { site := { memory := {}, builder := { nextPpn := 0x101 } } }
    (∀ address, Memory.readWord {} address = 0) ∧ Rooted 0 commands ∧
      (∀ mapping ∈ mappingsOf commands, ∀ guest,
        (stages commands)[mapping.root]? = some guest → mapping.Sound guest) ∧
      (mappingsOf commands).Pairwise Mapping.Disjoint ∧
      (∀ page ∈ built.state.site.builder.pages, page.toNat < 2 ^ 44) ∧
      built.fault = none ∧ built.state.roots = [⟨0x104, true⟩, ⟨0x108, false⟩] ∧
      ((built.state.site.tree ⟨0x108, false⟩).walk 0x12345).pte = page.entry ∧
      ((built.state.site.tree ⟨0x108, false⟩).walk 0x12346).ending = .pageFault ∧
      ((built.state.site.tree ⟨0x104, true⟩).walk 0x1005ffff).level = 0 := by
  intro region giant page commands built
  have empty (address : Word) : Memory.readWord {} address = 0 := Std.TreeMap.getD_emptyc
  have rooted : Rooted 0 commands := ⟨by decide, by decide, by decide, trivial⟩
  have sound : ∀ mapping ∈ mappingsOf commands, ∀ guest,
      (stages commands)[mapping.root]? = some guest → mapping.Sound guest := by decide
  have disjoint : (mappingsOf commands).Pairwise Mapping.Disjoint := by
    have beside : region.Disjoint page :=
      Mapping.disjoint_of_regionTag (by decide) (by decide) (by decide)
    have elsewhere : region.Disjoint giant := fun same => absurd same (by decide)
    have otherRoot : giant.Disjoint page := fun same => absurd same (by decide)
    change [region, giant, page].Pairwise Mapping.Disjoint
    simp [beside, elsewhere, otherRoot]
  have small : ∀ page ∈ built.state.site.builder.pages, page.toNat < 2 ^ 44 := by
    have pages : built.state.site.builder.pages =
        [0x104, 0x105, 0x106, 0x107, 0x108, 0x109, 0x10a] := by decide +kernel
    simp [pages]
  have roots : built.state.roots = [⟨0x104, true⟩, ⟨0x108, false⟩] := by decide +kernel
  obtain ⟨running, _, walks⟩ := walk_of_built {} 0x101 commands empty rooted sound disjoint small
  have first := walks 0 ⟨0x104, true⟩ (congrArg (·[0]?) roots)
  have second := walks 1 ⟨0x108, false⟩ (congrArg (·[1]?) roots)
  refine ⟨empty, rooted, sound, disjoint, small, running, roots, ?_, ?_, ?_⟩
  · exact ((second 0x12345 (by decide)).1 page (by decide) rfl rfl).2
  · exact ((second 0x12346 (by decide)).2 (by decide)).1
  · exact ((first 0x1005ffff (by decide)).1 giant (by decide) rfl (by decide)).1

end PageWalk.TableBuilder
