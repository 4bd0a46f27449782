import Mathlib.Data.List.Chain
import PageWalk.Proofs.Answers

/-!
# Journeys through table trees

The plain walk with all that it asks for on its way, in order: translations of table pages
and reads of entries. Some addresses must not be read, and an entry there ends the walk
unread. Below its last level a walk reads nothing: it hands the pointer on.
-/

namespace PageWalk

/-- What a walk asks for at a level. -/
inductive Errand
  /-- The page that a table is read from. -/
  | translate (level : Nat) (table : Word)
  /-- The entry at an address, which is found to be `pte`. -/
  | read (level : Nat) (address : Word) (pte : Pte)
deriving DecidableEq, Repr

def Errand.isRead : Errand → Bool
  | .translate _ _ => false
  | .read _ _ _ => true

inductive Finish
  | ended (walkEnd : WalkEnd)
  /-- The walk has come to a pointer at its last level. -/
  | handedOn (pte : Pte)
deriving DecidableEq, Repr

structure Journey where
  errands : List Errand := []
  finish : Finish
deriving DecidableEq, Repr

/-- The journey, with errands before it. -/
def Journey.after (journey : Journey) (errands : List Errand) : Journey :=
  { journey with errands := errands ++ journey.errands }

def Journey.reads (journey : Journey) : Nat :=
  journey.errands.countP Errand.isRead

/-- A tree some of whose addresses must not be read. -/
structure GuardedTree extends TableTree where
  denied : Word → Bool
  /-- Every table page is translated before it is read. -/
  nested : Bool

namespace GuardedTree

variable (tree : GuardedTree)

/-! ## The journey -/

/-- The address of the entry of a level in a page. -/
def address (host vpn : Word) (level : Nat) : Word :=
  entryAddress host (tableIndex tree.guest vpn level)

/-- What is asked for before a table is read. -/
def lead (level : Nat) (table : Word) : List Errand :=
  if tree.nested then [.translate level table] else []

/-- The journey on from an entry that was read at a level. -/
def follow (level : Nat) (table : Word) (pte : Pte) (onward : Pte → Journey) : Journey :=
  match tree.ending? pte level with
  | some ending => { finish := .ended ⟨ending, level, table, pte⟩ }
  | none => onward pte

/-- The journey on from the page that a table is read from. -/
def visit (vpn : Word) (level : Nat) (table host : Word) (onward : Pte → Journey) : Journey :=
  if tree.denied (tree.address host vpn level) then
    { finish := .ended ⟨.accessFault, level, table, {}⟩ }
  else
    let pte := tree.entry host vpn level
    (tree.follow level table pte onward).after
      [.read level (tree.address host vpn level) pte]

/-- The journey on from a table that the entry `last` points to. If the table page has no
translation, the walk shows that entry. -/
def arrive (vpn : Word) (level : Nat) (table : Word) (last : Pte) (onward : Pte → Journey) :
    Journey :=
  Journey.after
    (match tree.page? table with
      | none => { finish := .ended ⟨.unmapped, level, table, last⟩ }
      | some host => tree.visit vpn level table host onward)
    (tree.lead level table)

/-- The journey on from a pointer of a level, with `below` levels below it. -/
def onward (vpn : Word) : (below level : Nat) → Pte → Journey
  | 0, _, pte => { finish := .handedOn pte }
  | below + 1, level, pte =>
      tree.arrive vpn (level + 1) pte.ppn pte (onward vpn below (level + 1))

/-- The journey from a table of a level, with `below` levels below it. -/
def journeyFrom (vpn : Word) (below level : Nat) (table : Word) (last : Pte) : Journey :=
  tree.arrive vpn level table last (tree.onward vpn below level)

/-! ## What a journey asks for -/

/-- A read of a table at a level: of the page that the table is read from, at an address
that may be read. -/
structure ReadsAt (vpn : Word) (level : Nat) (table address : Word) (pte : Pte) : Prop where
  hosted : ∃ host, tree.page? table = some host ∧ address = tree.address host vpn level ∧
    pte = tree.entry host vpn level
  allowed : tree.denied address = false

/-- The first errand at a table: its translation if tables are translated, else its read. -/
def Opens (vpn : Word) (level : Nat) (table : Word) : Errand → Prop
  | .translate here page => tree.nested = true ∧ here = level ∧ page = table
  | .read here address pte =>
      tree.nested = false ∧ here = level ∧ tree.ReadsAt vpn level table address pte

/-- What may come next: after the translation of a table, which has to be mapped, its read,
and after a read, which has to find a pointer, the first errand at the next table. -/
def Follows (vpn : Word) : Errand → Errand → Prop
  | .translate level table, next =>
      ∃ address pte, next = .read level address pte ∧ tree.ReadsAt vpn level table address pte
  | .read level _ pte, next =>
      tree.ending? pte level = none ∧ tree.Opens vpn (level + 1) pte.ppn next

/-- A journey asks for one thing after the other, beginning at a table, and its reads are
limited in number. -/
structure Orderly (vpn : Word) (level : Nat) (table : Word) (limit : Nat)
    (journey : Journey) : Prop where
  first : ∀ errand ∈ journey.errands.head?, tree.Opens vpn level table errand
  chain : journey.errands.IsChain (tree.Follows vpn)
  reads : journey.reads ≤ limit

variable {tree}

theorem orderly_of_errands_nil
    (vpn : Word) (level : Nat) (table : Word) (limit : Nat) (finish : Finish) :
    tree.Orderly vpn level table limit { finish := finish } where
  first := by simp
  chain := by simp
  reads := Nat.zero_le limit

section Orderly

variable {vpn table : Word} {level limit : Nat} {onward : Pte → Journey}

theorem follow_of_pointer
    {pte : Pte} (pointer : tree.ending? pte level = none) :
    tree.follow level table pte onward = onward pte := by
  simp [follow, pointer]

theorem follow_of_ending
    {pte : Pte} {ending : WalkEnding} (ends : tree.ending? pte level = some ending) :
    tree.follow level table pte onward = { finish := .ended ⟨ending, level, table, pte⟩ } := by
  simp [follow, ends]

theorem visit_of_denied
    {host : Word} (denied : tree.denied (tree.address host vpn level) = true) :
    tree.visit vpn level table host onward =
      { finish := .ended ⟨.accessFault, level, table, {}⟩ } := by
  simp [visit, denied]

theorem visit_of_allowed
    {host : Word} (allowed : tree.denied (tree.address host vpn level) = false) :
    tree.visit vpn level table host onward =
      (tree.follow level table (tree.entry host vpn level) onward).after
        [.read level (tree.address host vpn level) (tree.entry host vpn level)] := by
  simp [visit, allowed]

/-- A journey may begin with a read that is due. -/
private theorem orderly_visit
    {host : Word} (hosted : tree.page? table = some host)
    (later : ∀ pte, tree.ending? pte level = none →
      tree.Orderly vpn (level + 1) pte.ppn limit (onward pte)) :
    let journey := tree.visit vpn level table host onward
    (∀ errand ∈ journey.errands.head?,
        tree.Follows vpn (.translate level table) errand) ∧
      journey.errands.IsChain (tree.Follows vpn) ∧ journey.reads ≤ limit + 1 := by
  cases denied : tree.denied (tree.address host vpn level) with
  | true =>
      rw [visit_of_denied denied]
      simp [Journey.reads]
  | false =>
      rw [visit_of_allowed denied]
      generalize entry : tree.entry host vpn level = pte
      have reads : tree.ReadsAt vpn level table (tree.address host vpn level) pte :=
        ⟨⟨host, hosted, rfl, entry.symm⟩, denied⟩
      cases pointer : tree.ending? pte level with
      | some ending =>
          rw [follow_of_ending pointer]
          exact ⟨by simpa [Journey.after, Follows] using reads, by simp [Journey.after],
            by simp [Journey.reads, Journey.after, Errand.isRead]⟩
      | none =>
          rw [follow_of_pointer pointer]
          have onwards := later pte pointer
          have counted := onwards.reads
          refine ⟨by simpa [Journey.after, Follows] using reads, ?_, ?_⟩
          · simp only [Journey.after, List.singleton_append, List.isChain_cons]
            exact ⟨fun next here => ⟨pointer, onwards.first next here⟩, onwards.chain⟩
          · simp only [Journey.reads, Journey.after, List.singleton_append] at counted ⊢
            simp only [List.countP_cons, Errand.isRead, if_true]
            omega

theorem Orderly.arrive
    (later : ∀ pte, tree.ending? pte level = none →
      tree.Orderly vpn (level + 1) pte.ppn limit (onward pte)) (last : Pte) :
    tree.Orderly vpn level table (limit + 1) (tree.arrive vpn level table last onward) := by
  have inner :
      let journey : Journey :=
        match tree.page? table with
        | none => { finish := .ended ⟨.unmapped, level, table, last⟩ }
        | some host => tree.visit vpn level table host onward
      (∀ errand ∈ journey.errands.head?,
          tree.Follows vpn (.translate level table) errand) ∧
        journey.errands.IsChain (tree.Follows vpn) ∧ journey.reads ≤ limit + 1 := by
    cases hosted : tree.page? table with
    | none => simp [Journey.reads]
    | some host => exact orderly_visit hosted later
  unfold GuardedTree.arrive
  generalize (match tree.page? table with
    | none => ({ finish := .ended ⟨.unmapped, level, table, last⟩ } : Journey)
    | some host => tree.visit vpn level table host onward) = journey at inner ⊢
  obtain ⟨first, chain, reads⟩ := inner
  cases nested : tree.nested with
  | true =>
      refine ⟨by simp [Journey.after, lead, nested, Opens], ?_, ?_⟩
      · simp only [Journey.after, lead, nested, if_true, List.singleton_append,
          List.isChain_cons]
        exact ⟨first, chain⟩
      · simpa [Journey.reads, Journey.after, lead, nested, Errand.isRead] using reads
  | false =>
      refine ⟨?_, by simpa [Journey.after, lead, nested] using chain,
        by simpa [Journey.reads, Journey.after, lead, nested] using reads⟩
      intro errand here
      simp only [Journey.after, lead, nested, Bool.false_eq_true, if_false,
        List.nil_append] at here
      obtain ⟨address, pte, rfl, read⟩ := first errand here
      exact ⟨nested, rfl, read⟩

theorem orderly_onward (vpn : Word) (below level : Nat) (pte : Pte) :
    tree.Orderly vpn (level + 1) pte.ppn below (tree.onward vpn below level pte) := by
  induction below generalizing level pte with
  | zero => exact orderly_of_errands_nil vpn (level + 1) pte.ppn 0 _
  | succ below inductionHypothesis =>
      exact Orderly.arrive (fun next _ => inductionHypothesis (level + 1) next) pte

/-- A journey from a table of a level reads at most one entry at each level. -/
theorem orderly_journeyFrom
    (vpn : Word) (below level : Nat) (table : Word) (last : Pte) :
    tree.Orderly vpn level table (below + 1) (tree.journeyFrom vpn below level table last) :=
  Orderly.arrive (fun pte _ => orderly_onward vpn below level pte) last

end Orderly

/-! ## How a journey ends -/

section Finish

variable {vpn table : Word} {level : Nat} {last : Pte} {onward : Pte → Journey}

private theorem arrive_ends
    (later : ∀ pte, tree.ending? pte level = none →
      ∃ walkEnd, (onward pte).finish = .ended walkEnd) :
    ∃ walkEnd, (tree.arrive vpn level table last onward).finish = .ended walkEnd := by
  unfold arrive
  cases tree.page? table with
  | none => exact ⟨_, rfl⟩
  | some host =>
      cases denied : tree.denied (tree.address host vpn level) with
      | true =>
          simp only [visit_of_denied denied]
          exact ⟨_, rfl⟩
      | false =>
          simp only [visit_of_allowed denied]
          cases pointer : tree.ending? (tree.entry host vpn level) level with
          | some ending =>
              rw [follow_of_ending pointer]
              exact ⟨_, rfl⟩
          | none =>
              rw [follow_of_pointer pointer]
              exact later _ pointer

/-- A journey that may go down to the leaf level hands nothing on. -/
theorem journeyFrom_ends
    (vpn : Word) {below level : Nat} (bound : level + below = leafLevel) (table : Word)
    (last : Pte) : ∃ walkEnd, (tree.journeyFrom vpn below level table last).finish =
      .ended walkEnd := by
  induction below generalizing level table last with
  | zero =>
      refine arrive_ends fun pte pointer => ?_
      have leaf : level = leafLevel := bound
      rw [leaf] at pointer
      exact absurd pointer (TableTree.ending_leafLevel pte)
  | succ below inductionHypothesis =>
      refine arrive_ends fun pte _ => ?_
      exact inductionHypothesis (by omega) pte.ppn pte

/-- A read of a journey is the one at its first table, or a read of the journey on from the
pointer found there. -/
private theorem arrive_read
    {here : Nat} {address : Word} {pte : Pte}
    (read : .read here address pte ∈ (tree.arrive vpn level table last onward).errands)
    (pointer : tree.ending? pte here = none) :
    (here = level ∧
        (tree.arrive vpn level table last onward).finish = (onward pte).finish) ∨
      ∃ next, .read here address pte ∈ (onward next).errands ∧
        (tree.arrive vpn level table last onward).finish = (onward next).finish := by
  have unled (errand : Errand) (member : errand ∈ tree.lead level table) :
      errand ≠ .read here address pte := by
    unfold lead at member
    split at member
    · rw [List.mem_singleton.1 member]
      exact Errand.noConfusion
    · cases member
  rcases List.mem_append.1 read with led | visited
  · exact absurd rfl (unled _ led)
  · cases hosted : tree.page? table with
    | none => simp [hosted] at visited
    | some host =>
        simp only [arrive, hosted] at visited ⊢
        cases denied : tree.denied (tree.address host vpn level) with
        | true =>
            rw [visit_of_denied denied] at visited
            cases visited
        | false =>
            rw [visit_of_allowed denied] at visited ⊢
            generalize tree.entry host vpn level = found at visited ⊢
            rcases List.mem_cons.1 visited with first | later
            · cases first
              rw [follow_of_pointer pointer]
              exact .inl ⟨rfl, rfl⟩
            · cases next : tree.ending? found level with
              | some ending =>
                  rw [follow_of_ending next] at later
                  cases later
              | none =>
                  rw [follow_of_pointer next] at later ⊢
                  exact .inr ⟨found, later, rfl⟩

/-- From a pointer that it has read a journey goes on as from there. -/
theorem finish_of_pointer
    {below here : Nat} {address : Word} {pte : Pte}
    (read : .read here address pte ∈ (tree.journeyFrom vpn below level table last).errands)
    (pointer : tree.ending? pte here = none) :
    ∃ rest, here + rest = level + below ∧
      (tree.journeyFrom vpn below level table last).finish =
        (tree.onward vpn rest here pte).finish := by
  induction below generalizing level table last with
  | zero =>
      rcases arrive_read read pointer with ⟨rfl, same⟩ | ⟨next, later, _⟩
      · exact ⟨0, rfl, same⟩
      · cases later
  | succ below inductionHypothesis =>
      rcases arrive_read read pointer with ⟨rfl, same⟩ | ⟨next, later, same⟩
      · exact ⟨below + 1, rfl, same⟩
      · obtain ⟨rest, levels, onwards⟩ := inductionHypothesis later
        exact ⟨rest, by omega, same.trans onwards⟩

/-- A journey that comes to no end at its first table goes on from the pointer that it has
read there. -/
private theorem arrive_handedOn
    {pte : Pte} (handed : (tree.arrive vpn level table last onward).finish = .handedOn pte) :
    ∃ next address, tree.ending? next level = none ∧
      (onward next).finish = .handedOn pte ∧
      .read level address next ∈ (tree.arrive vpn level table last onward).errands ∧
      ∀ errand ∈ (onward next).errands,
        errand ∈ (tree.arrive vpn level table last onward).errands := by
  unfold arrive at handed ⊢
  cases hosted : tree.page? table with
  | none =>
      rw [hosted] at handed
      cases handed
  | some host =>
      simp only [hosted] at handed ⊢
      cases denied : tree.denied (tree.address host vpn level) with
      | true =>
          rw [visit_of_denied denied] at handed
          cases handed
      | false =>
          rw [visit_of_allowed denied] at handed ⊢
          cases pointer : tree.ending? (tree.entry host vpn level) level with
          | some ending =>
              rw [follow_of_ending pointer] at handed
              cases handed
          | none =>
              rw [follow_of_pointer pointer] at handed ⊢
              refine ⟨tree.entry host vpn level, tree.address host vpn level, pointer, handed,
                by simp [Journey.after], fun errand member => by simp [Journey.after, member]⟩

/-- What a journey hands on is the pointer that it has read at its last level. -/
theorem read_of_handedOn
    {below : Nat} {pte : Pte}
    (handed : (tree.journeyFrom vpn below level table last).finish = .handedOn pte) :
    ∃ address,
      .read (level + below) address pte ∈
          (tree.journeyFrom vpn below level table last).errands ∧
        tree.ending? pte (level + below) = none := by
  induction below generalizing level table last with
  | zero =>
      obtain ⟨next, address, pointer, same, read, _⟩ := arrive_handedOn handed
      cases same
      exact ⟨address, read, pointer⟩
  | succ below inductionHypothesis =>
      obtain ⟨next, _, _, later, _, onwards⟩ := arrive_handedOn handed
      obtain ⟨address, read, pointer⟩ := inductionHypothesis later
      rw [Nat.add_assoc, Nat.add_comm 1 below] at read pointer
      exact ⟨address, onwards _ read, pointer⟩

/-- What the entry before was does not matter where every table page is its own. -/
theorem journeyFrom_eq_of_plain
    (plain : ∀ table, tree.page? table = some table) (vpn : Word) (below level : Nat)
    (table : Word) (last other : Pte) :
    tree.journeyFrom vpn below level table last =
      tree.journeyFrom vpn below level table other := by
  simp only [journeyFrom, arrive, plain]

/-- A journey through a tree without denied addresses ends as the plain walk does. -/
theorem finish_eq_walkFrom
    (allowed : ∀ address, tree.denied address = false)
    (plain : ∀ table, tree.page? table = some table) (vpn : Word) {below level : Nat}
    (bound : level + below = leafLevel) (table : Word) (last : Pte) :
    (tree.journeyFrom vpn below level table last).finish =
      .ended (tree.walkFrom vpn below level table) := by
  induction below generalizing level table last with
  | zero =>
      have leaf : level = leafLevel := bound
      unfold journeyFrom arrive TableTree.walkFrom
      simp only [plain, visit_of_allowed (allowed _)]
      cases ends : tree.ending? (tree.entry table vpn level) level with
      | some ending => rw [follow_of_ending ends]; rfl
      | none =>
          rw [leaf] at ends
          exact absurd ends (TableTree.ending_leafLevel _)
  | succ below inductionHypothesis =>
      unfold journeyFrom arrive TableTree.walkFrom
      simp only [plain, visit_of_allowed (allowed _)]
      cases ends : tree.ending? (tree.entry table vpn level) level with
      | some ending => rw [follow_of_ending ends]; rfl
      | none =>
          rw [follow_of_pointer ends]
          exact inductionHypothesis (by omega) _ _

end Finish

end GuardedTree

end PageWalk
