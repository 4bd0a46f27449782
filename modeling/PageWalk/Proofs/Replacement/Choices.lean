import PageWalk.Proofs.Replacement.Draws
import PageWalk.Proofs.Replacement.Lru
import PageWalk.Proofs.Replacement.TreePlru

/-!
# Choices of ways

Every policy, after whatever was done to it, chooses one of the ways of a set, the lowest
invalid one if there is any. As long as its stamps or nodes can be counted in 32 bits, a
choice rests on those of its set alone and changes none, and an access changes no others.
-/

namespace PageWalk

namespace Replacement

/-! ## What is kept for a set -/

/-- The positions of the stamps or of the nodes of a set. -/
def InSet (ways set : UInt32) (position : Nat) : Prop :=
  set.toNat * ways.toNat ≤ position ∧ position < (set.toNat + 1) * ways.toNat

/-- Two histories of one kind, with the same stamps or node bits at some positions. -/
inductive AgreeAt (positions : Nat → Prop) : History → History → Prop
  | lru {stamps other : Lru}
      (same : ∀ position, positions position → other.stamp position = stamps.stamp position) :
      AgreeAt positions (.lru stamps) (.lru other)
  | treePlru {nodes other : TreePlru}
      (same : ∀ position : UInt32, positions position.toNat →
        other.bit position = nodes.bit position) :
      AgreeAt positions (.treePlru nodes) (.treePlru other)
  | random (generator : Twister) : AgreeAt positions (.random generator) (.random generator)

variable {sets ways set : UInt32}

theorem inSet_of_counted
    (counted : sets.toNat * ways.toNat ≤ UInt32.size) (inside : set < sets) {way : Nat}
    (below : way < ways.toNat) : InSet ways set (set * ways + UInt32.ofNat way).toNat := by
  have here := (Cache.toNat_position counted inside below).1
  unfold InSet
  rw [here, Nat.succ_mul]
  omega

namespace Lru

/-- The positions of the stamps that a scan of a set reads. -/
def stampsRead (ways set : UInt32) : List Nat :=
  (List.range ways.toNat).map fun way => (set * ways).toNat + way

theorem Oldest.unique
    {stamp other : Nat → Word} {count best otherBest : Nat}
    (oldest : Oldest stamp count best) (otherOldest : Oldest other count otherBest)
    (same : ∀ way < count, other way = stamp way) : otherBest = best := by
  have later : ¬ best < otherBest := fun below => by
    have lower := otherOldest.lowest best below
    rw [same best oldest.inside, same otherBest otherOldest.inside] at lower
    exact UInt64.not_lt.2 (oldest.least otherBest otherOldest.inside) lower
  have earlier : ¬ otherBest < best := fun below => by
    have least := otherOldest.least best oldest.inside
    rw [same best oldest.inside, same otherBest otherOldest.inside] at least
    exact UInt64.not_lt.2 least (oldest.lowest otherBest below)
  omega

/-- The victim rests on the stamps that are read. -/
theorem victim_congr
    (positive : 0 < ways) {lru other : Lru}
    (same : ∀ position ∈ stampsRead ways set, other.stamp position = lru.stamp position) :
    other.victim ways set = lru.victim ways set := by
  refine UInt32.toNat_inj.1 ?_
  refine (lru.victim_oldest positive set).unique (other.victim_oldest positive set) ?_
  intro way below
  exact same _ (List.mem_map.2 ⟨way, List.mem_range.2 below, rfl⟩)

theorem inSet_of_read
    (counted : sets.toNat * ways.toNat ≤ UInt32.size) (inside : set < sets) {position : Nat}
    (read : position ∈ stampsRead ways set) : InSet ways set position := by
  obtain ⟨way, member, rfl⟩ := List.mem_map.1 read
  have below := List.mem_range.1 member
  have number := toNat_ofNat_of_below below
  have start := (position_of_counted counted inside
    (UInt32.lt_iff_toNat_lt.2 (by rwa [number]))).2
  unfold InSet
  rw [start, Nat.succ_mul]
  omega

end Lru

namespace TreePlru

variable {depth : Nat} {base node way : UInt32} {tree other : TreePlru}

/-- The positions of the node bits that a descent reads. -/
def nodesRead (tree : TreePlru) (base : UInt32) : (depth : Nat) → (node : UInt32) → List UInt32
  | 0, _ => []
  | depth + 1, node =>
      (base + node) :: nodesRead tree base depth (child node (tree.bit (base + node)))

/-- A descent rests on the node bits that it reads. -/
theorem descendFrom_congr
    (same : ∀ position ∈ tree.nodesRead base depth node,
      other.bit position = tree.bit position) :
    other.descendFrom base depth node way = tree.descendFrom base depth node way := by
  induction depth generalizing node way with
  | zero => rfl
  | succ depth inductionHypothesis =>
      unfold descendFrom
      dsimp only
      rw [same (base + node) List.mem_cons_self]
      refine inductionHypothesis fun position read => ?_
      exact same position (List.mem_cons_of_mem _ read)

theorem below_of_read
    {position : UInt32} (read : position ∈ tree.nodesRead base depth node) :
    ∃ inner, Below depth node inner ∧ position = base + inner := by
  induction depth generalizing node with
  | zero => cases read
  | succ depth inductionHypothesis =>
      rcases List.mem_cons.1 read with rfl | later
      · exact ⟨node, .here, rfl⟩
      · obtain ⟨inner, below, place⟩ := inductionHypothesis later
        exact ⟨inner, .child _ below, place⟩

/-- The nodes below the root are kept for the set. -/
theorem inSet_of_below
    (power : ways.toNat = 2 ^ depth) (counted : sets.toNat * ways.toNat ≤ UInt32.size)
    (inside : set < sets) {inner : UInt32}
    (below : Below (TreePlru.depth ways) 1 inner) :
    InSet ways set (set * ways + inner).toNat := by
  have one : (1 : UInt32).toNat = 1 := rfl
  have last := below.lt (room_of_power power (Nat.le_refl 1))
  rw [depth_of_power power, ← power, one] at last
  have place := inSet_of_counted counted inside (show inner.toNat < ways.toNat by omega)
  rwa [UInt32.ofNat_toNat] at place

end TreePlru

/-! ## Calls -/

/-- What is done to a policy. -/
inductive Call
  | access (set way : UInt32)
  | choose (set : UInt32) (valid : Nat → Bool)

end Replacement

open Replacement

namespace ReplacementPolicy

variable {sets ways set : UInt32} {policy : ReplacementPolicy} {valid : Nat → Bool}

def perform (policy : ReplacementPolicy) : Call → ReplacementPolicy
  | .access set way => policy.access set way
  | .choose set valid => (policy.choose set valid).2

def performAll (policy : ReplacementPolicy) (calls : List Call) : ReplacementPolicy :=
  calls.foldl perform policy

/-- A policy that goes on with another generator, if it has one. -/
def withGenerator (policy : ReplacementPolicy) (generator : Twister) : ReplacementPolicy :=
  match policy.history with
  | .random _ => { policy with history := .random generator }
  | _ => policy

/-- A policy of so many sets with so many ways; a tree policy has ways for all leaves. -/
structure Made (sets ways : UInt32) (policy : ReplacementPolicy) : Prop where
  sets : policy.sets = sets
  fits : policy.Fits ways
  leaves : ∀ nodes, policy.history = .treePlru nodes → ∃ depth, ways.toNat = 2 ^ depth

/-! ## Policies that were made -/

theorem made_of_create
    {name : String} (created : create name sets ways = .ok policy) : Made sets ways policy := by
  have fits := fits_of_create created
  obtain ⟨_, _, kind⟩ := created_of_create created
  cases kind with
  | lru => exact ⟨rfl, fits, fun nodes same => History.noConfusion same⟩
  | treePlru _ power => exact ⟨rfl, fits, fun _ _ => isPowerOfTwo_toNat power⟩
  | random => exact ⟨rfl, fits, fun nodes same => History.noConfusion same⟩

namespace Made

theorem withGenerator (made : Made sets ways policy) (generator : Twister) :
    Made sets ways (policy.withGenerator generator) := by
  unfold ReplacementPolicy.withGenerator
  split
  · exact ⟨made.sets, { made.fits with }, fun nodes same => History.noConfusion same⟩
  · exact made

theorem access (made : Made sets ways policy) (set way : UInt32) :
    Made sets ways (policy.access set way) := by
  have fits := made.fits.access set way
  unfold ReplacementPolicy.access at fits ⊢
  cases kind : policy.history with
  | lru stamps =>
      rw [kind] at fits
      exact ⟨made.sets, fits, fun nodes same => History.noConfusion same⟩
  | treePlru nodes =>
      rw [kind] at fits
      exact ⟨made.sets, fits, fun _ _ => made.leaves nodes kind⟩
  | random generator => exact made

/-- A choice leaves the stamps and the nodes alone, and at most moves the generator on. -/
theorem choose (made : Made sets ways policy) (set : UInt32) (valid : Nat → Bool) :
    Made sets ways (policy.choose set valid).2 := by
  have fits := (made.fits.choose set valid).2
  unfold ReplacementPolicy.choose ReplacementPolicy.victim at fits ⊢
  cases policy.firstInvalid valid with
  | some way => exact made
  | none =>
      cases kind : policy.history with
      | lru stamps => exact made
      | treePlru nodes => exact made
      | random generator =>
          exact ⟨made.sets, { made.fits with }, fun nodes same => History.noConfusion same⟩

theorem perform (made : Made sets ways policy) (call : Call) :
    Made sets ways (policy.perform call) := by
  cases call with
  | access set way => exact made.access set way
  | choose set valid => exact made.choose set valid

theorem performAll (made : Made sets ways policy) (calls : List Call) :
    Made sets ways (policy.performAll calls) :=
  List.foldlRecOn calls ReplacementPolicy.perform made fun _ kept call _ => kept.perform call

end Made

/-! ## What a choice rests on -/

/-- The positions of the stamps or nodes that a choice reads. -/
def reads (policy : ReplacementPolicy) (set : UInt32) (valid : Nat → Bool) : List Nat :=
  match policy.firstInvalid valid, policy.history with
  | some _, _ => []
  | none, .lru _ => Lru.stampsRead policy.ways set
  | none, .treePlru nodes =>
      (nodes.nodesRead (set * policy.ways) (TreePlru.depth policy.ways) 1).map UInt32.toNat
  | none, .random _ => []

/-- What a choice of a way of a set comes to. -/
structure Chosen (ways set : UInt32) (valid : Nat → Bool) (policy : ReplacementPolicy) :
    Prop where
  inside : (policy.choose set valid).1 < ways
  /-- It is the lowest invalid way if there is one. -/
  lowest : ∀ way < ways.toNat, valid way = false →
    valid (policy.choose set valid).1.toNat = false ∧ (policy.choose set valid).1.toNat ≤ way
  /-- What it reads is kept for the set. -/
  own : ∀ position ∈ policy.reads set valid, InSet ways set position
  /-- Nothing but what it reads has a part in it. -/
  rests : ∀ history, AgreeAt (· ∈ policy.reads set valid) policy.history history →
    (choose { policy with history := history } set valid).1 = (policy.choose set valid).1
  /-- But for the generator, nothing is changed. -/
  leaves : ∀ generator,
    (policy.choose set valid).2.withGenerator generator = policy.withGenerator generator

theorem lowest_of_choose
    (fits : policy.Fits ways) {way : Nat} (inside : way < ways.toNat)
    (invalid : valid way = false) :
    valid (policy.choose set valid).1.toNat = false ∧
      (policy.choose set valid).1.toNat ≤ way := by
  unfold choose
  cases found : policy.firstInvalid valid with
  | none =>
      unfold firstInvalid at found
      rw [fits.same] at found
      have all := List.find?_eq_none.1 found way (List.mem_range.2 inside)
      rw [invalid] at all
      exact absurd rfl all
  | some first =>
      unfold firstInvalid at found
      rw [fits.same, List.find?_range_eq_some] at found
      obtain ⟨firstInvalid, member, lower⟩ := found
      dsimp only
      rw [toNat_ofNat_of_below (List.mem_range.1 member)]
      refine ⟨by simpa using firstInvalid, Nat.le_of_not_lt fun before => ?_⟩
      have validBefore := lower way before
      rw [invalid] at validBefore
      cases validBefore

theorem Made.inSet_of_reads
    (made : Made sets ways policy) (counted : sets.toNat * ways.toNat ≤ UInt32.size)
    (inside : set < sets) {position : Nat} (read : position ∈ policy.reads set valid) :
    InSet ways set position := by
  unfold reads at read
  rw [made.fits.same] at read
  split at read
  · cases read
  · exact Lru.inSet_of_read counted inside read
  · rename_i nodes _ kind
    obtain ⟨depth, power⟩ := made.leaves nodes kind
    obtain ⟨place, member, rfl⟩ := List.mem_map.1 read
    obtain ⟨inner, below, rfl⟩ := TreePlru.below_of_read member
    exact TreePlru.inSet_of_below power counted inside below
  · cases read

/-- A choice is the same from a history that has the same where it reads. -/
theorem choose_congr
    (positive : 0 < policy.ways) {history : History}
    (agree : AgreeAt (· ∈ policy.reads set valid) policy.history history) :
    (choose { policy with history := history } set valid).1 = (policy.choose set valid).1 := by
  obtain ⟨sets, ways, before⟩ := policy
  have scan : firstInvalid ⟨sets, ways, history⟩ valid = firstInvalid ⟨sets, ways, before⟩ valid :=
    rfl
  unfold choose
  dsimp only
  rw [scan]
  unfold reads at agree
  cases found : firstInvalid ⟨sets, ways, before⟩ valid with
  | some way => rfl
  | none =>
      rw [found] at agree
      cases agree with
      | lru same => exact Lru.victim_congr positive same
      | treePlru same =>
          refine TreePlru.descendFrom_congr fun position read => ?_
          exact same position (List.mem_map.2 ⟨position, read, rfl⟩)
      | random generator => rfl

theorem withGenerator_choose (set : UInt32) (valid : Nat → Bool) (generator : Twister) :
    (policy.choose set valid).2.withGenerator generator = policy.withGenerator generator := by
  unfold choose victim
  cases policy.firstInvalid valid with
  | some way => rfl
  | none =>
      cases kind : policy.history with
      | lru stamps => rfl
      | treePlru nodes => rfl
      | random drawing =>
          unfold withGenerator
          rw [kind]

theorem Made.chosen
    (made : Made sets ways policy) (counted : sets.toNat * ways.toNat ≤ UInt32.size)
    (inside : set < sets) (valid : Nat → Bool) : Chosen ways set valid policy where
  inside := (made.fits.choose set valid).1
  lowest _ inside invalid := lowest_of_choose made.fits inside invalid
  own _ read := made.inSet_of_reads counted inside read
  rests _ agree := choose_congr (by rw [made.fits.same]; exact made.fits.positive) agree
  leaves := withGenerator_choose set valid

/-- An access changes only what is kept for its set. -/
theorem Made.agree_access
    (made : Made sets ways policy) (counted : sets.toNat * ways.toNat ≤ UInt32.size)
    (inside : set < sets) {way : UInt32} (below : way < ways) :
    AgreeAt (fun position => ¬ InSet ways set position) policy.history
      (policy.access set way).history := by
  unfold ReplacementPolicy.access
  cases kind : policy.history with
  | lru stamps =>
      refine .lru fun position outside => ?_
      rw [made.fits.same, Lru.stamp_access, if_neg]
      rintro rfl
      refine outside ?_
      have place := inSet_of_counted counted inside (UInt32.lt_iff_toNat_lt.1 below)
      rwa [UInt32.ofNat_toNat] at place
  | treePlru nodes =>
      obtain ⟨depth, power⟩ := made.leaves nodes kind
      refine .treePlru fun position outside => TreePlru.bit_touchFrom fun inner below => ?_
      rw [made.fits.same] at below ⊢
      rintro rfl
      exact outside (TreePlru.inSet_of_below power counted inside below)
  | random generator =>
      dsimp only
      rw [kind]
      exact .random generator

/-- A random policy whose ways are all valid draws one from the words of its generator. -/
theorem Made.drawn
    (made : Made sets ways policy) {generator : Twister}
    (random : policy.history = .random generator)
    (full : ∀ way < ways.toNat, valid way = true)
    (ends : ∃ index ≤ redrawLimit, ¬ Redrawn ways.toNat (generator.word index)) :
    DrawnFrom generator.word ways.toNat (policy.choose set valid).1.toNat := by
  have none : policy.firstInvalid valid = none := by
    refine List.find?_eq_none.2 fun way member => ?_
    rw [made.fits.same] at member
    rw [full way (List.mem_range.1 member)]
    decide
  have positive := UInt32.lt_iff_toNat_lt.1 made.fits.positive
  have drawn := drawBelow_drawnFrom positive generator ends
  unfold ReplacementPolicy.choose ReplacementPolicy.victim
  rw [none, random, made.fits.same]
  dsimp only
  rw [toNat_ofNat_of_below (drawn.lt positive)]
  exact drawn

/-- After whatever was done to a policy of any of the three kinds, and whatever its generator
holds, the choice for a set is one of its ways, the lowest invalid one if there is any. It
rests on what is kept for that set alone, and an access to the set changes nothing else. A
random policy draws from the words of its generator; whatever words come, a draw ends with the
first that is not drawn again, and is one of the ways. -/
theorem chosen_of_calls
    {name : String} (created : create name sets ways = .ok policy)
    (counted : sets.toNat * ways.toNat < UInt32.size) (generator : Twister)
    (calls : List Call) (inside : set < sets) (valid : Nat → Bool) :
    let now := (policy.withGenerator generator).performAll calls
    now.Chosen ways set valid ∧
      (∀ way < ways, AgreeAt (fun position => ¬ InSet ways set position) now.history
        (now.access set way).history) ∧
      (∀ drawing, now.history = .random drawing → (∀ way < ways.toNat, valid way = true) →
        (∃ index ≤ redrawLimit, ¬ Redrawn ways.toNat (drawing.word index)) →
        DrawnFrom drawing.word ways.toNat (now.choose set valid).1.toNat) ∧
      ∀ words : Nat → Word,
        ((∃ index, ¬ Redrawn ways.toNat (words index)) → ∃ way, DrawnFrom words ways.toNat way) ∧
          ∀ way, DrawnFrom words ways.toNat way → way < ways.toNat := by
  intro now
  have made : Made sets ways now :=
    ((made_of_create created).withGenerator generator).performAll calls
  have counted := Nat.le_of_lt counted
  refine ⟨made.chosen counted inside valid, ?_, ?_, ?_⟩
  · intro way below
    exact made.agree_access counted inside below
  · intro drawing random full ends
    exact made.drawn random full ends
  · intro words
    refine ⟨fun ⟨_, accepted⟩ => exists_drawnFrom accepted, fun way drawn => ?_⟩
    exact drawn.lt (UInt32.lt_iff_toNat_lt.1 made.fits.positive)

/-- A tree of four ways of two sets, the stamps of five ways of three sets, and six ways drawn
from two words, of which the first is drawn again. -/
theorem chosen_of_small_calls :
    let calls : List Call :=
      [.access 1 2, .choose 0 fun _ => true, .access 0 1, .access 1 3, .access 0 0]
    let full : Nat → Bool := fun _ => true
    let without : Nat → Bool := fun way => way != 2 && way != 3
    let words : Twister := { state := #[0, 0x123456789abcdef0], position := 0 }
    (∃ policy, create "plru" 2 4 = .ok policy ∧
      (((policy.withGenerator words).performAll calls).choose 1 full).1 = 0 ∧
      ((policy.withGenerator words).performAll calls).Chosen 4 1 full) ∧
    (∃ policy, create "lru" 3 5 = .ok policy ∧
      (((policy.withGenerator words).performAll calls).choose 0 full).1 = 2 ∧
      ((policy.withGenerator words).performAll calls).Chosen 5 0 full) ∧
    ∃ policy, create "random" 1 6 = .ok policy ∧
      let now := (policy.withGenerator words).performAll []
      Redrawn 6 (words.word 0) ∧ ¬ Redrawn 6 (words.word 1) ∧
        (now.choose 0 without).1 = 2 ∧ now.Chosen 6 0 without ∧
        DrawnFrom words.word 6 (now.choose 0 full).1.toNat := by
  intro calls full without words
  have tree : create "plru" 2 4 = .ok _ := rfl
  have stamps : create "lru" 3 5 = .ok _ := rfl
  have random : create "random" 1 6 = .ok _ := rfl
  have treeChosen := chosen_of_calls tree (by decide) words calls
    (show (1 : UInt32) < 2 by decide) full
  have stampsChosen := chosen_of_calls stamps (by decide) words calls
    (show (0 : UInt32) < 3 by decide) full
  have inside : (0 : UInt32) < 1 := by decide
  have accepted : ¬ Redrawn 6 (words.word 1) := by decide +kernel
  have drawn := (chosen_of_calls random (by decide) words [] inside full).2.2.1 words rfl
    (fun _ _ => rfl) ⟨1, by decide, accepted⟩
  exact ⟨⟨_, tree, by decide +kernel, treeChosen.1⟩,
    ⟨_, stamps, by decide +kernel, stampsChosen.1⟩, _, random, by decide +kernel, accepted,
    by decide +kernel, (chosen_of_calls random (by decide) words [] inside without).1, drawn⟩

end ReplacementPolicy

end PageWalk
