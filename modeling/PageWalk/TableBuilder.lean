import PageWalk.Memory

/-!
# Building page tables

Page tables for either stage, written straight into a memory. Table pages are
handed out in ascending order; the root of a second-stage table takes four pages
aligned to 16 KiB.
-/

namespace PageWalk

/-- The next free page and all table pages handed out so far. -/
structure TableBuilder where
  nextPpn : Word := 0x100
  pages : List Word := []
deriving DecidableEq, Repr, Inhabited

namespace TableBuilder

/-- Hands out a table page, or the four pages of a second-stage root. -/
def allocate (builder : TableBuilder) (guestRoot : Bool) : Word × TableBuilder :=
  let first := if guestRoot then (builder.nextPpn + 3) &&& ~~~(3 : Word) else builder.nextPpn
  let count := if guestRoot then 4 else 1
  (first,
    { nextPpn := first + UInt64.ofNat count
      pages := builder.pages ++ (List.range count).map fun page => first + UInt64.ofNat page })

/-- The memory and the builder that writes to it. -/
structure Site where
  memory : Memory
  builder : TableBuilder

/-- The table that an entry points to. An invalid entry is first made to point to a
new table; a leaf is in the way. -/
def Site.enter (site : Site) (guest : Bool) (vpn : Word) (level : Nat) (table : Word) :
    Except Fault (Word × Site) :=
  let address := entryAddress table (tableIndex guest vpn level)
  let entry : Pte := ⟨site.memory.readWord address⟩
  if entry.valid then
    if entry.isLeaf then .error (.mappedByLeaf vpn level) else .ok (entry.ppn, site)
  else do
    let (page, builder) := site.builder.allocate false
    let pointer := Pte.make page Pte.validBit
    let memory ← site.memory.writeWord address pointer.raw
    .ok (pointer.ppn, { memory := memory, builder := builder })

/-- The table that holds the entries of a level, entered from the root through the
given levels. -/
def Site.descend (site : Site) (guest : Bool) (vpn : Word) :
    (levels : List Nat) → (table : Word) → Except Fault (Word × Site)
  | [], table => .ok (table, site)
  | level :: levels, table => do
      let (table, site) ← site.enter guest vpn level table
      site.descend guest vpn levels table

/-- Writes the entry of a page number at a level, with the tables that lead to it. -/
def Site.setEntry (site : Site) (guest : Bool) (root vpn : Word) (level : Nat) (entry : Word) :
    Except Fault Site :=
  if leafLevel < level then
    .error (.tableLevel level)
  else do
    let (table, site) ← site.descend guest vpn (List.range level) root
    let memory ← site.memory.writeWord (entryAddress table (tableIndex guest vpn level)) entry
    .ok { site with memory := memory }

def Site.map (site : Site) (guest : Bool) (root vpn ppn : Word) (level : Nat) (flags : Word) :
    Except Fault Site :=
  site.setEntry guest root vpn level (Pte.make ppn flags).raw

/-- Maps every table page handed out so far to itself under a second-stage root.
The mapping may take further table pages. -/
def Site.mapTables (site : Site) (root : Word) : Except Fault Site :=
  site.builder.pages.foldlM
    (fun site page => site.map true root page page leafLevel Pte.leafFlags) site

/-- The table that holds the entries of a level, if valid pointers lead to it. -/
def findTable (memory : Memory) (guest : Bool) (vpn : Word) :
    (levels : List Nat) → (table : Word) → Option Word
  | [], table => some table
  | level :: levels, table =>
      let entry : Pte := ⟨memory.readWord (entryAddress table (tableIndex guest vpn level))⟩
      if !entry.valid || entry.isLeaf then none else findTable memory guest vpn levels entry.ppn

/-- The address of the entry of a page number at a level, zero if nothing leads to
it. -/
def entryAddressOf (memory : Memory) (guest : Bool) (root vpn : Word) (level : Nat) : Word :=
  match findTable memory guest vpn (List.range level) root with
  | some table => entryAddress table (tableIndex guest vpn level)
  | none => 0

end TableBuilder

end PageWalk
