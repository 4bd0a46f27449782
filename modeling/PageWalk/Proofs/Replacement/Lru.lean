import Mathlib.Tactic.ByContra
import PageWalk.Proofs.Cache.Sets
import PageWalk.Proofs.Replacement

/-!
# The victims of a least recently used policy

The stamps number the accesses in time. So the victim of a set is its lowest way that was
never accessed, and once all were, the way that has waited longest. Stamps are kept by
position: as long as these can be counted in 32 bits no set knows of another one, and as soon
as they cannot some access to another set changes the victim of the first.
-/

namespace PageWalk

/-! ## Last occurrences -/

/-- The last occurrence of an item in a list lies between these two parts of it. -/
structure LastIn {Item : Type} (items : List Item) (item : Item) (before after : List Item) :
    Prop where
  split : items = before ++ item :: after
  last : item ∉ after

section LastIn

variable {Item : Type} {items before after : List Item} {item : Item}

theorem exists_lastIn (member : item ∈ items) :
    ∃ before after, LastIn items item before after := by
  induction items with
  | nil => cases member
  | cons head tail inductionHypothesis =>
      by_cases later : item ∈ tail
      · obtain ⟨before, after, found⟩ := inductionHypothesis later
        exact ⟨head :: before, after, congrArg (head :: ·) found.split, found.last⟩
      · rcases List.mem_cons.1 member with rfl | inTail
        · exact ⟨[], tail, rfl, later⟩
        · exact absurd inTail later

/-- What is added to a list is its last item, and the others occur where they did. -/
theorem LastIn.of_concat
    {added : Item} (found : LastIn (items ++ [added]) item before after) :
    (item = added ∧ before = items) ∨
      (item ≠ added ∧ ∃ rest, LastIn items item before rest) := by
  rcases List.eq_nil_or_concat after with rfl | ⟨rest, final, rfl⟩
  · obtain ⟨same, last⟩ := List.append_inj' found.split rfl
    injection last with added
    exact Or.inl ⟨added.symm, same.symm⟩
  · have split : items ++ [added] = (before ++ item :: rest) ++ [final] := by
      rw [found.split, List.concat_eq_append, List.append_assoc, List.cons_append]
    obtain ⟨same, last⟩ := List.append_inj' split rfl
    injection last with added
    subst added
    have elsewhere := found.last
    rw [List.concat_eq_append, List.mem_append, List.mem_singleton, not_or] at elsewhere
    exact Or.inr ⟨elsewhere.2, rest, same, elsewhere.1⟩

variable {other : Item} {otherBefore otherAfter : List Item}

/-- Of two items, the one whose last occurrence is not the earlier one occurs once more after
the other. -/
theorem LastIn.mem_after
    (found : LastIn items item before after)
    (otherFound : LastIn items other otherBefore otherAfter)
    (order : before.length ≤ otherBefore.length) (different : other ≠ item) :
    other ∈ after := by
  have same := found.split.symm.trans otherFound.split
  rcases List.append_eq_append_iff.1 same with
    ⟨between, rfl, tail⟩ | ⟨between, rfl, tail⟩
  · cases between with
    | nil =>
        injection tail with head
        exact absurd head.symm different
    | cons head between =>
        injection tail with _ rest
        rw [rest]
        exact List.mem_append_right between List.mem_cons_self
  · rw [List.length_append] at order
    have none : between = [] := List.eq_nil_of_length_eq_zero (by omega)
    subst none
    injection tail with head
    exact absurd head different

theorem LastIn.length_lt
    (found : LastIn items item before after)
    (otherFound : LastIn items other otherBefore otherAfter) (member : other ∈ after) :
    before.length < otherBefore.length := by
  by_contra order
  have same := otherFound.split.symm.trans found.split
  rcases List.append_eq_append_iff.1 same with
    ⟨between, rfl, tail⟩ | ⟨between, rfl, tail⟩
  · refine otherFound.last ?_
    cases between with
    | nil =>
        injection tail with _ rest
        rwa [rest]
    | cons head between =>
        injection tail with _ rest
        rw [rest]
        exact List.mem_append_right between (List.mem_cons_of_mem item member)
  · rw [List.length_append] at order
    have none : between = [] := List.eq_nil_of_length_eq_zero (by omega)
    subst none
    injection tail with _ rest
    exact otherFound.last (rest ▸ member)

end LastIn

/-! ## The way that has waited longest -/

/-- Of ways with an item each, this one is to be replaced after the items were used in this
order: the lowest one that was never used, or else the one after whose last use all others
were used again. -/
inductive LeastRecent {Item : Type} (items : List Item) (ways : UInt32) (own : UInt32 → Item)
    (way : UInt32) : Prop
  | unused (never : own way ∉ items) (lower : ∀ other < way, own other ∈ items)
  | earliest (before after : List Item) (last : LastIn items (own way) before after)
      (later : ∀ other < ways, other ≠ way → own other ∈ after)

namespace LeastRecent

variable {Item : Type} {items : List Item} {ways way other : UInt32} {own : UInt32 → Item}

/-- All ways were used, or none below the one that was not. -/
theorem unused_of_not_mem
    (least : LeastRecent items ways own way) (inside : other < ways)
    (never : own other ∉ items) : own way ∉ items ∧ way ≤ other := by
  cases least with
  | unused wayNever lower =>
      refine ⟨wayNever, UInt32.not_lt.1 fun below => ?_⟩
      exact never (lower other below)
  | earliest before after last later =>
      by_cases same : other = way
      · subst same
        rw [last.split] at never
        exact absurd (List.mem_append_right before List.mem_cons_self) never
      · rw [last.split] at never
        have used := List.mem_cons_of_mem (own way) (later other inside same)
        exact absurd (List.mem_append_right before used) never

/-- There is one such way only. -/
theorem unique
    (least : LeastRecent items ways own way) (otherLeast : LeastRecent items ways own other)
    (inside : way < ways) (otherInside : other < ways) : way = other := by
  by_cases wayNever : own way ∉ items
  · have first := otherLeast.unused_of_not_mem inside wayNever
    have second := least.unused_of_not_mem otherInside first.1
    exact UInt32.le_antisymm second.2 first.2
  · by_cases otherNever : own other ∉ items
    · exact absurd (least.unused_of_not_mem otherInside otherNever).1 wayNever
    · rcases least with ⟨never, _⟩ | ⟨_, _, last, later⟩
      · exact absurd never wayNever
      rcases otherLeast with ⟨never, _⟩ | ⟨_, _, otherLast, otherLater⟩
      · exact absurd never otherNever
      by_contra different
      -- Each of the two would have been used again after the last use of the other.
      have before := last.length_lt otherLast (later other otherInside (Ne.symm different))
      have after := otherLast.length_lt last (otherLater way inside different)
      omega

/-- Uses of what is no way's own do not matter. -/
theorem filter
    (least : LeastRecent items ways own way) (keeps : Item → Bool)
    (kept : ∀ other, keeps (own other) = true) :
    LeastRecent (items.filter keeps) ways own way := by
  cases least with
  | unused never lower =>
      refine .unused (fun member => never (List.mem_filter.1 member).1) fun other below => ?_
      exact List.mem_filter.2 ⟨lower other below, kept other⟩
  | earliest before after last later =>
      refine .earliest (before.filter keeps) (after.filter keeps)
        ⟨?_, fun member => last.last (List.mem_filter.1 member).1⟩ fun other inside different => ?_
      · rw [last.split, List.filter_append, List.filter_cons_of_pos (kept way)]
      · exact List.mem_filter.2 ⟨later other inside different, kept other⟩

/-- The same of items that stand for others one to one. -/
theorem of_map
    {Source : Type} {sources : List Source} {place : Source → Item} {source : UInt32 → Source}
    (least : LeastRecent (sources.map place) ways own way)
    (placed : ∀ other < ways, place (source other) = own other)
    (faithful : ∀ used ∈ sources, ∀ other < ways, place used = own other → used = source other)
    (inside : way < ways) : LeastRecent sources ways source way := by
  have back (part : List Source) (known : ∀ used ∈ part, used ∈ sources) (other : UInt32)
      (inside : other < ways) (member : own other ∈ part.map place) : source other ∈ part := by
    obtain ⟨used, inPart, same⟩ := List.mem_map.1 member
    rwa [← faithful used (known used inPart) other inside same]
  have forth (part : List Source) (other : UInt32) (inside : other < ways)
      (member : source other ∈ part) : own other ∈ part.map place :=
    List.mem_map.2 ⟨source other, member, placed other inside⟩
  cases least with
  | unused never lower =>
      refine .unused (fun member => never (forth sources way inside member)) fun other below => ?_
      have otherInside := UInt32.lt_trans below inside
      exact back sources (fun _ member => member) other otherInside (lower other below)
  | earliest _ _ last later =>
      obtain ⟨before, rest, split, _, tail⟩ := List.map_eq_append_iff.1 last.split
      obtain ⟨used, after, rfl, here, rfl⟩ := List.map_eq_cons_iff.1 tail
      have known (other : Source) (member : other ∈ used :: after) : other ∈ sources := by
        rw [split]
        exact List.mem_append_right before member
      have same := faithful used (known used List.mem_cons_self) way inside here
      subst same
      refine .earliest before after
        ⟨split, fun member => last.last (forth after way inside member)⟩
        fun other otherInside different => ?_
      exact back after (fun used member => known used (List.mem_cons_of_mem _ member)) other
        otherInside (later other otherInside different)

end LeastRecent

namespace Replacement.Lru

/-! ## The scan of the stamps -/

/-- The lowest of so many ways with the smallest stamp. -/
structure Oldest (stamp : Nat → Word) (count best : Nat) : Prop where
  inside : best < count
  least : ∀ way < count, stamp best ≤ stamp way
  lowest : ∀ way < best, stamp best < stamp way

/-- The scan of one way more takes it only if its stamp is smaller than all before. -/
private theorem Oldest.next
    {stamp : Nat → Word} {count best : Nat} (oldest : Oldest stamp count best) :
    Oldest stamp (count + 1) (if stamp count < stamp best then count else best) := by
  have reached (way : Nat) (inside : way < count + 1) : way = count ∨ way < count := by omega
  split
  case isTrue smaller =>
    refine ⟨Nat.lt_succ_self count, fun way inside => ?_, fun way below => ?_⟩
    · rcases reached way inside with rfl | before
      · exact UInt64.le_refl _
      · exact UInt64.le_trans (UInt64.le_of_lt smaller) (oldest.least way before)
    · exact UInt64.lt_of_lt_of_le smaller (oldest.least way below)
  case isFalse kept =>
    refine ⟨Nat.lt_succ_of_lt oldest.inside, fun way inside => ?_, oldest.lowest⟩
    rcases reached way inside with rfl | before
    · exact UInt64.not_lt.1 kept
    · exact oldest.least way before

private theorem oldest_scan (stamp : Nat → Word) (count : Nat) :
    Oldest stamp (count + 1)
      ((List.range (count + 1)).foldl
        (fun best way => if stamp way < stamp best then way else best) 0) := by
  induction count with
  | zero =>
      refine ⟨?_, fun way inside => ?_, fun way below => ?_⟩
      · simp [List.range_succ]
      · have first : way = 0 := by omega
        subst first
        simp [List.range_succ]
      · simp [List.range_succ] at below
  | succ count inductionHypothesis =>
      rw [List.range_succ, List.foldl_append]
      exact inductionHypothesis.next

variable {ways : UInt32} {lru : Lru} {positions : List Nat}

theorem victim_oldest (lru : Lru) (positive : 0 < ways) (set : UInt32) :
    Oldest (fun way => lru.stamp ((set * ways).toNat + way)) ways.toNat
      (lru.victim ways set).toNat := by
  obtain ⟨count, size⟩ : ∃ count, ways.toNat = count + 1 :=
    Nat.exists_eq_succ_of_ne_zero (Nat.ne_of_gt (UInt32.lt_iff_toNat_lt.1 positive))
  have scanned := oldest_scan (fun way => lru.stamp ((set * ways).toNat + way)) count
  rw [← size] at scanned
  unfold victim
  rw [toNat_ofNat_of_below scanned.inside]
  exact scanned

/-! ## What the stamps record -/

/-- Where the stamp of a way is kept. -/
def position (ways : UInt32) (access : UInt32 × UInt32) : Nat :=
  (access.1 * ways + access.2).toNat

/-- The stamps tell when each position was accessed last, counted from 1. -/
structure Records (positions : List Nat) (lru : Lru) : Prop where
  clock : lru.clock.toNat = positions.length
  unused : ∀ place, place ∉ positions → lru.stamp place = 0
  numbered : ∀ place before after, LastIn positions place before after →
    (lru.stamp place).toNat = before.length + 1

theorem records_new : Records [] {} where
  clock := rfl
  unused _ _ := rfl
  numbered _ _ _ found := absurd found.split (by simp)

theorem stamp_access (lru : Lru) (ways set way : UInt32) (place : Nat) :
    (lru.access ways set way).stamp place =
      if position ways (set, way) = place then lru.clock + 1 else lru.stamp place := by
  unfold stamp access position
  rw [Std.TreeMap.getD_insert]
  simp only [Std.compare_eq_iff_eq]

theorem Records.access
    (records : Records positions lru) (room : positions.length + 1 < UInt64.size)
    (ways set way : UInt32) :
    Records (positions ++ [position ways (set, way)]) (lru.access ways set way) := by
  have clock : (lru.clock + 1).toNat = positions.length + 1 := by
    have one : (1 : Word).toNat = 1 := rfl
    rw [UInt64.toNat_add, records.clock, one, Nat.mod_eq_of_lt room]
  refine ⟨?_, fun place unused => ?_, fun place before after found => ?_⟩
  · rw [List.length_append, List.length_singleton]
    exact clock
  · rw [List.mem_append, List.mem_singleton, not_or] at unused
    rw [stamp_access, if_neg (Ne.symm unused.2)]
    exact records.unused place unused.1
  · rw [stamp_access]
    rcases found.of_concat with ⟨rfl, rfl⟩ | ⟨elsewhere, rest, found⟩
    · rw [if_pos rfl]
      exact clock
    · rw [if_neg (Ne.symm elsewhere)]
      exact records.numbered place before rest found

/-- The smallest stamp is that of the way that has waited longest. -/
theorem Records.leastRecent
    (records : Records positions lru) (positive : 0 < ways) (set : UInt32) :
    LeastRecent positions ways (fun way => (set * ways).toNat + way.toNat)
      (lru.victim ways set) := by
  have oldest := victim_oldest lru positive set
  by_cases used : (set * ways).toNat + (lru.victim ways set).toNat ∈ positions
  · obtain ⟨before, after, last⟩ := exists_lastIn used
    have number := records.numbered _ _ _ last
    refine .earliest before after last fun other inside different => ?_
    have least := UInt64.le_iff_toNat_le.1
      (oldest.least other.toNat (UInt32.lt_iff_toNat_lt.1 inside))
    by_cases otherUsed : (set * ways).toNat + other.toNat ∈ positions
    · obtain ⟨otherBefore, otherAfter, otherLast⟩ := exists_lastIn otherUsed
      have otherNumber := records.numbered _ _ _ otherLast
      refine last.mem_after otherLast (by omega) fun same => different ?_
      exact UInt32.toNat_inj.1 (by omega)
    · -- A way without a stamp would be older than the victim.
      have zero : (0 : Word).toNat = 0 := rfl
      rw [records.unused _ otherUsed, zero] at least
      omega
  · refine .unused used fun other below => ?_
    have later := oldest.lowest other.toNat (UInt32.lt_iff_toNat_lt.1 below)
    by_contra otherUsed
    rw [records.unused _ used, records.unused _ otherUsed] at later
    exact UInt64.lt_irrefl 0 later

/-! ## Positions of ways -/

variable {sets set : UInt32}

/-- As long as the stamps can be counted in 32 bits, a way is where its set has it. -/
theorem position_of_counted
    (counted : sets.toNat * ways.toNat ≤ UInt32.size) (inside : set < sets) {way : UInt32}
    (below : way < ways) :
    position ways (set, way) = set.toNat * ways.toNat + way.toNat ∧
      (set * ways).toNat = set.toNat * ways.toNat := by
  have wayBelow := UInt32.lt_iff_toNat_lt.1 below
  have positive : 0 < ways.toNat := Nat.zero_lt_of_lt wayBelow
  have start := (Cache.toNat_position counted inside positive).1
  have here := (Cache.toNat_position counted inside wayBelow).1
  rw [UInt32.ofNat_toNat] at here
  rw [show UInt32.ofNat 0 = 0 from rfl, UInt32.add_zero, Nat.add_zero] at start
  exact ⟨here, start⟩

theorem eq_of_position
    (counted : sets.toNat * ways.toNat ≤ UInt32.size) (inside : set < sets) {way : UInt32}
    (below : way < ways) {access : UInt32 × UInt32}
    (ranged : access.1 < sets ∧ access.2 < ways)
    (same : position ways access = (set * ways).toNat + way.toNat) : access = (set, way) := by
  have here := position_of_counted counted inside below
  have there := (position_of_counted counted ranged.1 ranged.2).1
  have numbers : access.1.toNat * ways.toNat + access.2.toNat =
      set.toNat * ways.toNat + way.toNat := by
    rw [← there, same, here.2]
  have sets : access.1 = set :=
    Cache.set_eq_of_position counted ranged.1 inside
      (Cache.mem_setPositions_of_lt access.1 ranged.2)
      (by
        rw [show (access.1 * ways + access.2).toNat = (set * ways + way).toNat from
          there.trans (numbers.trans here.1.symm)]
        exact Cache.mem_setPositions_of_lt set below)
  refine Prod.ext sets (UInt32.toNat_inj.1 ?_)
  rw [sets] at numbers
  exact Nat.add_left_cancel numbers

end Replacement.Lru

open Replacement

namespace ReplacementPolicy

variable {sets ways : UInt32} {policy : ReplacementPolicy}

/-! ## Runs of the policy -/

/-- The stamps record all accesses of a history. -/
theorem records_accessAll
    (sets ways : UInt32) {accesses : List (UInt32 × UInt32)} {positions : List Nat} {lru : Lru}
    (records : lru.Records positions)
    (few : positions.length + accesses.length < UInt64.size) :
    ∃ after, accessAll ⟨sets, ways, .lru lru⟩ accesses = ⟨sets, ways, .lru after⟩ ∧
      after.Records (positions ++ accesses.map (Lru.position ways)) := by
  induction accesses generalizing positions lru with
  | nil =>
      rw [List.map_nil, List.append_nil]
      exact ⟨lru, rfl, records⟩
  | cons access later inductionHypothesis =>
      rw [List.length_cons] at few
      have accessed := records.access (by omega) ways access.1 access.2
      obtain ⟨after, reached, kept⟩ := inductionHypothesis accessed (by
        rw [List.length_append, List.length_singleton]
        omega)
      refine ⟨after, reached, ?_⟩
      rwa [List.append_assoc] at kept

/-- The victim of a set after a history of accesses. -/
private theorem victim_of_accessAll
    (positive : 0 < ways) (counted : sets.toNat * ways.toNat ≤ UInt32.size)
    {accesses : List (UInt32 × UInt32)} (few : accesses.length < UInt64.size)
    (ranged : ∀ access ∈ accesses, access.1 < sets ∧ access.2 < ways)
    {set : UInt32} (inside : set < sets) :
    let after := accessAll ⟨sets, ways, .lru {}⟩ accesses
    (after.victim set).1 < ways ∧ (after.victim set).2 = after ∧
      LeastRecent accesses ways (fun way => (set, way)) (after.victim set).1 := by
  intro after
  have few : ([] : List Nat).length + accesses.length < UInt64.size := by
    rwa [List.length_nil, Nat.zero_add]
  obtain ⟨lru, reached, records⟩ := records_accessAll sets ways Lru.records_new few
  have same : after = ⟨sets, ways, .lru lru⟩ := reached
  rw [same]
  have below := lru.victim_lt positive set
  refine ⟨below, rfl, (records.leastRecent positive set).of_map ?_ ?_ below⟩
  · intro other otherInside
    have here := Lru.position_of_counted counted inside otherInside
    rw [here.1, here.2]
  · intro access member other otherInside
    exact Lru.eq_of_position counted inside otherInside (ranged access member)

/-- If the stamps cannot be counted in 32 bits, one that lies far out is kept where the first
set has its first one. -/
private theorem exists_far_access (uncounted : UInt32.size < sets.toNat * ways.toNat) :
    ∃ access : UInt32 × UInt32, access.1 < sets ∧ access.2 < ways ∧ access.1 ≠ 0 ∧
      Lru.position ways access = 0 := by
  obtain ⟨set, way, inside, below, number⟩ := Cache.exists_set_and_way uncounted
  refine ⟨(set, way), inside, below, fun first => ?_, ?_⟩
  · have narrow : way.toNat < UInt32.size := way.toNat_lt
    have zero : set.toNat = 0 := congrArg UInt32.toNat first
    rw [zero, Nat.zero_mul, Nat.zero_add] at number
    exact Nat.ne_of_lt narrow number
  · unfold Lru.position
    rw [Cache.toNat_position_mod, number]
    exact Nat.mod_self UInt32.size

/-- An access whose stamp is kept as the first one of all makes the first way of the first set
a recent one. -/
private theorem victim_of_far_access
    (sets : UInt32) (several : 1 < ways) {far : UInt32 × UInt32}
    (first : Lru.position ways far = 0) :
    (victim ⟨sets, ways, .lru {}⟩ 0).1 = 0 ∧
      ((access ⟨sets, ways, .lru {}⟩ far.1 far.2).victim 0).1 ≠ 0 := by
  have more : 1 < ways.toNat := UInt32.lt_iff_toNat_lt.1 several
  have positive : 0 < ways := UInt32.lt_trans (by decide) several
  have base : ((0 : UInt32) * ways).toNat = 0 := by rw [UInt32.zero_mul]; rfl
  constructor
  · have oldest := Lru.victim_oldest {} positive 0
    by_contra later
    have above : 0 < (Lru.victim {} ways 0).toNat :=
      Nat.pos_of_ne_zero fun zero => later (UInt32.toNat_inj.1 zero)
    exact UInt64.lt_irrefl 0 (oldest.lowest 0 above)
  · intro chosen
    have oldest := Lru.victim_oldest (Lru.access {} ways far.1 far.2) positive 0
    have least := oldest.least 1 more
    have zero : (Lru.victim (Lru.access {} ways far.1 far.2) ways 0).toNat = 0 :=
      congrArg UInt32.toNat chosen
    rw [zero, base, Lru.stamp_access, Lru.stamp_access, first, if_pos rfl,
      if_neg (by omega)] at least
    exact absurd least (by decide)

/-- After a history of accesses to a least recently used policy whose stamps can be counted in
32 bits, the victim of a set is its lowest way that was never accessed, or else the one after
whose last access all others were accessed again; accesses to other sets do not matter. With
more stamps than that there is a set whose accesses change the victim of the first set. -/
theorem leastRecent_of_accesses (created : create "lru" sets ways = .ok policy) :
    (sets.toNat * ways.toNat ≤ UInt32.size →
      ∀ accesses : List (UInt32 × UInt32), accesses.length < UInt64.size →
        (∀ access ∈ accesses, access.1 < sets ∧ access.2 < ways) → ∀ set < sets,
          let after := policy.accessAll accesses
          (after.victim set).1 < ways ∧ (after.victim set).2 = after ∧
            LeastRecent accesses ways (fun way => (set, way)) (after.victim set).1 ∧
            (after.victim set).1 =
              ((policy.accessAll (accesses.filter (·.1 == set))).victim set).1) ∧
      (1 < ways → UInt32.size < sets.toNat * ways.toNat →
        ∃ set way, set < sets ∧ way < ways ∧ set ≠ 0 ∧
          (policy.victim 0).1 = 0 ∧ ((policy.access set way).victim 0).1 ≠ 0) := by
  obtain ⟨_, positive, kind⟩ := created_of_create created
  rcases kind with _ | ⟨other, _⟩ | other
  case treePlru | random => exact absurd other (by decide)
  constructor
  · intro counted accesses few ranged set inside
    have whole := victim_of_accessAll positive counted few ranged inside
    have own := victim_of_accessAll positive counted
      (Nat.lt_of_le_of_lt (List.length_filter_le (·.1 == set) accesses) few)
      (fun access member => ranged access (List.mem_filter.1 member).1) inside
    refine ⟨whole.1, whole.2.1, whole.2.2, ?_⟩
    have kept := whole.2.2.filter (·.1 == set) fun _ => beq_self_eq_true set
    exact kept.unique own.2.2 whole.1 own.1
  · intro several uncounted
    obtain ⟨access, inside, below, different, far⟩ := exists_far_access uncounted
    have changed := victim_of_far_access sets several far
    exact ⟨access.1, access.2, inside, below, different, changed.1, changed.2⟩

/-- Four ways of two sets: all of the first were accessed, and one of the second is left. And a
policy of two ways with one set more than can be counted. -/
theorem leastRecent_of_small_accesses :
    let accesses : List (UInt32 × UInt32) :=
      [(0, 0), (1, 0), (0, 1), (0, 2), (1, 2), (0, 3), (0, 0), (1, 1)]
    (∃ policy, create "lru" 2 4 = .ok policy ∧
      (∀ access ∈ accesses, access.1 < 2 ∧ access.2 < 4) ∧
      ((policy.accessAll accesses).victim 0).1 = 1 ∧
      ((policy.accessAll accesses).victim 1).1 = 3 ∧
      LeastRecent accesses 4 (fun way => (0, way)) ((policy.accessAll accesses).victim 0).1 ∧
      LeastRecent accesses 4 (fun way => (1, way)) ((policy.accessAll accesses).victim 1).1) ∧
      ∃ policy, create "lru" 0x80000001 2 = .ok policy ∧
        ∃ set way, set < 0x80000001 ∧ way < 2 ∧ set ≠ 0 ∧
          (policy.victim 0).1 = 0 ∧ ((policy.access set way).victim 0).1 ≠ 0 := by
  intro accesses
  have created : create "lru" 2 4 = .ok _ := rfl
  have all : accesses.all (fun access => access.1 < 2 ∧ access.2 < 4) = true := by decide
  have ranged : ∀ access ∈ accesses, access.1 < 2 ∧ access.2 < 4 := by
    simpa only [List.all_eq_true, decide_eq_true_eq] using all
  have victims := (leastRecent_of_accesses created).1 (by decide) accesses (by decide) ranged
  have uncounted : create "lru" 0x80000001 2 = .ok _ := rfl
  refine ⟨⟨_, created, ranged, by decide +kernel, by decide +kernel,
    (victims 0 (by decide)).2.2.1, (victims 1 (by decide)).2.2.1⟩, _, uncounted, ?_⟩
  exact (leastRecent_of_accesses uncounted).2 (by decide) (by decide)

/-- The positions of stamps are 32 bits wide: with two ways, sets 0 and `2 ^ 31` have the same
ones, and an access to the one set changes the victim of the other. -/
theorem far_sets_share_stamps :
    let policy : ReplacementPolicy := ⟨0x80000001, 2, .lru {}⟩
    create "lru" policy.sets policy.ways = .ok policy ∧
      (0 : UInt32) < policy.sets ∧ (0x80000000 : UInt32) < policy.sets ∧
      (policy.victim 0x80000000).1 = 0 ∧
      ((policy.access 0 0).victim 0x80000000).1 = 1 := by
  exact ⟨rfl, by decide, by decide, by decide +kernel, by decide +kernel⟩

end ReplacementPolicy

end PageWalk
